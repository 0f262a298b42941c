import AnalysisSettings.Proofs.Url.Directory
import Mathlib.Data.List.DropRight

/-!
# Slashes of a URL

How many slashes a text ends in makes hardly a difference to the URL that it is. Texts that differ in
nothing else (`Text.SlashAlike`) are cut alike, their authorities are read alike, and the paths of
their URLs differ in nothing else either (`Reference.resolve_slashAlike`).

But the reader looks at a text before it takes anything for a slash. In a query or a fragment, a slash
is a character like any other, and a blank counts in front of a slash but not at the end of a text.
`parse_slashAlike` is the law for a text that is given one slash at its end instead of any number: it
holds where the text has a query or a fragment, or does not end in a blank.

Within a path a slash is never part of a segment. So a special URL has a last segment without one
(`hasLastSegment_of_parse`), and what is read below the URL stands in its place
(`toList_path_below`).
-/

namespace AnalysisSettings

/-! ## Texts that differ in their last slashes -/

namespace Text

/-- A text without the slashes at its end. -/
def trimSlashes (cs : List Char) : List Char :=
  dropEndWhile (· == '/') cs

/-- The texts are the same up to the number of slashes at their ends. -/
def SlashAlike (cs ds : List Char) : Prop :=
  ∃ front n m, cs = front ++ List.replicate n '/' ∧ ds = front ++ List.replicate m '/'

/-- Only slashes are trimmed. -/
theorem eq_trimSlashes_append (cs : List Char) :
    ∃ n, cs = trimSlashes cs ++ List.replicate n '/' := by
  have tail : cs.rtakeWhile (· == '/') =
      List.replicate (cs.rtakeWhile (· == '/')).length '/' := by
    rw [List.eq_replicate_iff]
    refine ⟨rfl, fun c hc => ?_⟩
    simpa using List.mem_rtakeWhile_imp hc
  refine ⟨(cs.rtakeWhile (· == '/')).length, ?_⟩
  rw [← tail]
  exact List.rdropWhile_append_rtakeWhile.symm

/-- One more slash at the end makes no difference. -/
@[simp] theorem trimSlashes_concat (cs : List Char) : trimSlashes (cs ++ ['/']) = trimSlashes cs :=
  List.rdropWhile_concat_pos (· == '/') cs '/' rfl

/-- Nor do any number of slashes. -/
@[simp] theorem trimSlashes_append_replicate (cs : List Char) (n : Nat) :
    trimSlashes (cs ++ List.replicate n '/') = trimSlashes cs := by
  induction n with
  | zero => rw [List.replicate_zero, List.append_nil]
  | succ n ih => rw [List.replicate_succ', ← List.append_assoc, trimSlashes_concat, ih]

/-- Nothing is trimmed from a text that does not end in a slash. -/
theorem trimSlashes_eq_self {cs : List Char} (h : cs.getLast? ≠ some '/') :
    trimSlashes cs = cs := by
  refine (List.rdropWhile_eq_self_iff (p := (· == '/'))).mpr fun ne last => h ?_
  rw [List.getLast?_eq_some_getLast ne, beq_iff_eq.mp last]

/-- A trimmed text does not end in a slash. -/
theorem getLast?_trimSlashes (cs : List Char) : (trimSlashes cs).getLast? ≠ some '/' := by
  intro h
  have ne : trimSlashes cs ≠ [] := by
    intro empty
    rw [empty] at h
    cases h
  rw [List.getLast?_eq_some_getLast ne] at h
  exact List.rdropWhile_last_not (· == '/') cs ne (beq_iff_eq.mpr (Option.some.inj h))

namespace SlashAlike

variable {cs ds : List Char}

/-- A text is the same as itself. -/
theorem refl (cs : List Char) : SlashAlike cs cs :=
  ⟨cs, 0, 0, by simp, by simp⟩

/-- Texts that differ in their last slashes are trimmed to the same one. -/
theorem trimSlashes_eq (h : SlashAlike cs ds) : trimSlashes cs = trimSlashes ds := by
  obtain ⟨front, n, m, rfl, rfl⟩ := h
  simp

/-- They differ in no more if the same characters are kept of them. -/
theorem filter (h : SlashAlike cs ds) (p : Char → Bool) :
    SlashAlike (cs.filter p) (ds.filter p) := by
  obtain ⟨front, n, m, rfl, rfl⟩ := h
  cases slash : p '/' with
  | true => exact ⟨front.filter p, n, m, by simp [slash], by simp [slash]⟩
  | false => exact ⟨front.filter p, 0, 0, by simp [slash], by simp [slash]⟩

/-- They differ in no more if they are dropped from up to some character. -/
theorem dropWhile (h : SlashAlike cs ds) (p : Char → Bool) :
    SlashAlike (cs.dropWhile p) (ds.dropWhile p) := by
  obtain ⟨front, n, m, rfl, rfl⟩ := h
  rw [List.dropWhile_append, List.dropWhile_append]
  split
  · cases slash : p '/' with
    | true => exact ⟨[], 0, 0, by simp [slash], by simp [slash]⟩
    | false =>
      exact ⟨[], n, m, by simp [slash], by simp [slash]⟩
  · exact ⟨front.dropWhile p, n, m, rfl, rfl⟩

/-- They are the same up to a slash. -/
theorem takeWhile_eq (h : SlashAlike cs ds) {p : Char → Bool} (slash : p '/' = false) :
    cs.takeWhile p = ds.takeWhile p := by
  have cut : ∀ (front : List Char) (n : Nat),
      (front ++ List.replicate n '/').takeWhile p = front.takeWhile p := by
    intro front n
    have none : (List.replicate n '/').takeWhile p = [] := by
      rw [List.takeWhile_replicate, slash]
      rfl
    rw [List.takeWhile_append, none]
    split
    · next whole => rw [List.append_nil, (List.takeWhile_prefix p).eq_of_length whole]
    · rfl
  obtain ⟨front, n, m, rfl, rfl⟩ := h
  rw [cut, cut]

end SlashAlike

/-- A text ends in a slash, and in no more than one. -/
def EndsInOneSlash (cs : List Char) : Prop :=
  ∃ front, cs = front ++ ['/'] ∧ front.getLast? ≠ some '/'

/-- A text ends in a slash if nothing stands behind its last one. -/
theorem getLast?_eq_slash_iff {front last : List Char} (h : '/' ∉ last) :
    (front ++ '/' :: last).getLast? = some '/' ↔ last = [] := by
  constructor
  · intro ends
    by_contra ne
    rw [List.append_cons, List.getLast?_append, List.getLast?_eq_some_getLast ne] at ends
    exact h (Option.some.inj ends ▸ List.getLast_mem ne)
  · rintro rfl
    exact List.getLast?_concat

/-- What stands before the last slash is the text without its last slashes exactly if the text ends in
one slash. -/
theorem trimSlashes_eq_iff {front last : List Char} (h : '/' ∉ last) :
    trimSlashes (front ++ '/' :: last) = front ↔ EndsInOneSlash (front ++ '/' :: last) := by
  constructor
  · intro trimmed
    have ends : (front ++ '/' :: last).getLast? = some '/' := by
      by_contra other
      rw [trimSlashes_eq_self other] at trimmed
      simp at trimmed
    obtain rfl := (getLast?_eq_slash_iff h).mp ends
    refine ⟨front, rfl, ?_⟩
    rw [← trimmed]
    exact getLast?_trimSlashes _
  · rintro ⟨front', whole, one⟩
    have ends : (front ++ '/' :: last).getLast? = some '/' := by rw [whole, List.getLast?_concat]
    obtain rfl := (getLast?_eq_slash_iff h).mp ends
    obtain rfl := List.append_cancel_right whole
    rw [trimSlashes_concat, trimSlashes_eq_self one]

end Text

namespace Url

open Text (SlashAlike)

/-! ## Paths -/

/-- The segments reached through all of a list, none of which is the last of its path. -/
def through (reached : List String) (segments : List (List Char)) : List String :=
  segments.foldl (fun reached segment => step .special reached segment false) reached

/-- An empty segment is reached as it is. -/
@[simp] theorem step_nil (reached : List String) (isLast : Bool) :
    step .special reached [] isLast = reached ++ [""] := rfl

/-- The last segment of a path adds an empty one where it is a direction. -/
theorem step_last (reached : List String) (segment : List Char) :
    ∃ k, step .special reached segment true =
      step .special reached segment false ++ List.replicate k "" := by
  unfold step
  dsimp only
  split
  · exact ⟨1, by simp⟩
  · split
    · exact ⟨1, by simp⟩
    · exact ⟨0, (List.append_nil _).symm⟩

/-- Empty segments are reached as they are. -/
@[simp] theorem walk_replicate (reached : List String) (n : Nat) :
    walk .special reached (List.replicate n []) = reached ++ List.replicate n "" := by
  induction n generalizing reached with
  | zero => exact (List.append_nil _).symm
  | succ n ih =>
    rw [List.replicate_succ, walk, step_nil, ih, List.replicate_succ, List.append_assoc]
    rfl

/-- Empty segments at the end are reached as they are, and nothing else depends on them. -/
theorem walk_append_replicate (reached : List String) {segments : List (List Char)}
    (ne : segments ≠ []) (n : Nat) :
    ∃ k, walk .special reached (segments ++ List.replicate n []) =
      through reached segments ++ List.replicate k "" := by
  induction segments generalizing reached with
  | nil => exact absurd rfl ne
  | cons segment segments ih =>
    cases segments with
    | cons next segments => exact ih _ (List.cons_ne_nil next segments)
    | nil =>
      cases n with
      | zero => exact step_last reached segment
      | succ n => exact ⟨n + 1, walk_replicate (step .special reached segment false) (n + 1)⟩

/-- Slashes at the end of a text are empty segments at the end. -/
@[simp] theorem splitSegments_append_replicate (cs : List Char) (n : Nat) :
    splitSegments .special (cs ++ List.replicate n '/') =
      splitSegments .special cs ++ List.replicate n [] := by
  induction n with
  | zero => simp
  | succ n ih =>
    rw [List.replicate_succ', ← List.append_assoc, splitSegments_concat, ih, List.replicate_succ',
      List.append_assoc]

/-- Segments are written with a slash before each. -/
@[simp] theorem Path.toList_segments (parts : List String) :
    (Path.segments parts).toString.toList = parts.flatMap fun part => '/' :: part.toList := by
  simp [Path.toString, String.toList_join, List.flatMap_map]

/-- Slashes at the end of a text are slashes at the end of the path. -/
theorem pathFrom_append_replicate (cs : List Char) :
    ∃ text, ∀ n, ∃ k,
      (Path.segments (pathFrom .special [] (cs ++ List.replicate n '/'))).toString.toList =
        text ++ List.replicate k '/' := by
  refine ⟨(through [] (splitSegments .special cs)).flatMap fun part => '/' :: part.toList,
    fun n => ?_⟩
  have ne : splitSegments .special cs ≠ [] := Text.split_ne_nil _ _
  obtain ⟨k, hk⟩ := walk_append_replicate [] ne n
  have parts : pathFrom .special [] (cs ++ List.replicate n '/') =
      through [] (splitSegments .special cs) ++ List.replicate k "" := by
    rw [← hk, ← splitSegments_append_replicate]
    rfl
  refine ⟨k, ?_⟩
  simp [parts, List.flatMap_replicate]

namespace Reference

/-- So are those at the end of a text behind an authority. -/
theorem pathAfterAuthority_append_replicate (front : List Char) :
    ∃ text, ∀ n, ∃ k,
      (pathAfterAuthority .special (front ++ List.replicate n '/')).toString.toList =
        text ++ List.replicate k '/' := by
  cases front with
  | cons c front =>
    cases separator : SchemeKind.special.isSeparator c with
    | true =>
      obtain ⟨text, path⟩ := pathFrom_append_replicate front
      refine ⟨text, fun n => ?_⟩
      rw [List.cons_append, pathAfterAuthority, separator]
      exact path n
    | false =>
      obtain ⟨text, path⟩ := pathFrom_append_replicate (c :: front)
      refine ⟨text, fun n => ?_⟩
      rw [List.cons_append, pathAfterAuthority, separator]
      exact path n
  | nil =>
    -- nothing is left but slashes, and each of them is one of the path
    refine ⟨[], fun n => ?_⟩
    cases n with
    | zero => exact ⟨1, rfl⟩
    | succ n =>
      have parts : pathFrom .special [] (List.replicate n '/') = List.replicate (n + 1) "" := by
        show walk .special [] (splitSegments .special ([] ++ List.replicate n '/')) = _
        rw [splitSegments_append_replicate]
        exact walk_replicate [] (n + 1)
      refine ⟨n + 1, ?_⟩
      show (Path.segments (pathFrom .special [] (List.replicate n '/'))).toString.toList = _
      simp [parts, List.flatMap_replicate]

/-- The slashes at the end of a text are those at the end of its path. -/
theorem pathAfterAuthority_slashAlike {cs ds : List Char} (h : SlashAlike cs ds) :
    SlashAlike (pathAfterAuthority .special cs).toString.toList
      (pathAfterAuthority .special ds).toString.toList := by
  obtain ⟨front, n, m, rfl, rfl⟩ := h
  obtain ⟨text, path⟩ := pathAfterAuthority_append_replicate front
  obtain ⟨k, hk⟩ := path n
  obtain ⟨l, hl⟩ := path m
  exact ⟨text, k, l, hk, hl⟩

/-! ## Authorities -/

/-- A port is a part of the text that it is cut from. -/
theorem mem_of_mem_cutPort {bracketed : Bool} {cs port : List Char} {c : Char}
    (hport : (cutPort bracketed cs).2 = some port) (hc : c ∈ port) : c ∈ cs := by
  induction cs generalizing bracketed with
  | nil => cases hport
  | cons d cs ih =>
    rw [cutPort] at hport
    split at hport
    · cases hport
      exact List.mem_cons_of_mem d hc
    · exact List.mem_cons_of_mem d (ih hport)

/-- A machine is a part of the text that it is cut from. -/
theorem mem_of_mem_cutCredentials {cs : List Char} {c : Char} (h : c ∈ (cutCredentials cs).2) :
    c ∈ cs := by
  unfold cutCredentials at h
  dsimp only at h
  split at h
  · exact h
  · exact List.mem_reverse.mp ((List.takeWhile_prefix _).mem (List.mem_reverse.mp h))

/-- What stands before the first separator of a special URL. -/
def beforeSeparator (cs : List Char) : List Char :=
  cs.takeWhile fun c => !SchemeKind.special.isSeparator c

/-- What stands from the first separator of a special URL on. -/
def fromSeparator (cs : List Char) : List Char :=
  cs.dropWhile fun c => !SchemeKind.special.isSeparator c

/-- There is no backslash before the first separator. -/
theorem not_mem_beforeSeparator (cs : List Char) : '\\' ∉ beforeSeparator cs := by
  intro h
  have inner := List.all_eq_true.mp (List.all_takeWhile (l := cs)) _ h
  revert inner
  decide

/-- What is read as the authority of a special URL is what stands before the first separator, and
nothing but that text decides what it is. -/
theorem readAuthority_congr {r s : Reference} {scheme : String} {cs ds rest : List Char}
    {authority : Authority} (kind : SchemeKind.of scheme = .special)
    (same : beforeSeparator cs = beforeSeparator ds)
    (read : r.readAuthority scheme cs = .ok (authority, rest)) :
    rest = fromSeparator cs ∧ s.readAuthority scheme ds = .ok (authority, fromSeparator ds) := by
  unfold readAuthority at read ⊢
  have inner := not_mem_beforeSeparator cs
  unfold beforeSeparator at same inner
  simp only [bind, Except.bind, throw, throwThe, MonadExceptOf.throw, pure, Except.pure, kind,
    ← same] at read ⊢
  generalize cs.takeWhile (fun c => !SchemeKind.special.isSeparator c) = text at read inner ⊢
  have afterPort : ((cutPort false (cutCredentials text).2).2.getD []).dropWhile (· != '\\') = [] := by
    cases hport : (cutPort false (cutCredentials text).2).2 with
    | none => rfl
    | some digits =>
      refine List.dropWhile_eq_nil_iff.mpr fun c hc => bne_iff_ne.mpr ?_
      rintro rfl
      exact inner (mem_of_mem_cutCredentials (mem_of_mem_cutPort hport hc))
  rw [afterPort] at read ⊢
  split at read
  · cases read
  · split at read
    · cases read
    · next host hhost =>
      -- a machine was read, so the text of the machine is not empty
      have machine : (cutCredentials text).2.isEmpty = false := by
        cases hmachine : (cutCredentials text).2 with
        | cons c cs => rfl
        | nil =>
          rw [hmachine] at hhost
          cases hhost
      rw [if_neg (by simp [machine])]
      split at read
      · cases read
      · next named =>
        rw [if_neg named]
        split at read
        · cases read
        · split at read
          · cases read
          · next user =>
            cases read
            exact ⟨rfl, if_neg user⟩

/-! ## Resolution -/

/-- The path of a special URL is read from the first separator behind its authority on. -/
theorem path_of_resolve {r : Reference} {url : Url} (read : r.resolve none = .ok url)
    (special : SchemeKind.of url.scheme = .special) :
    url.path = pathAfterAuthority .special
      (fromSeparator (r.body.dropWhile fun c => c == '/' || c == '\\')) := by
  obtain ⟨-, hurl⟩ := resolve_special read special
  obtain ⟨authority, rest, hread, whole⟩ := withAuthority_ok hurl
  obtain ⟨rfl, -⟩ := readAuthority_congr (s := r) special rfl hread
  rw [← special]
  exact congrArg Url.path whole

/-- **Slashes at the end change nothing but the end of the path.** Let the bodies of two references to
special URLs be the same up to the slashes at their ends. If one reference is a URL, so is the other,
with the same scheme and authority, and their paths are the same up to the slashes at their ends. -/
theorem resolve_slashAlike {r r' : Reference} {url : Url} (named : r'.scheme = r.scheme)
    (body : SlashAlike r'.body r.body) (read : r.resolve none = .ok url)
    (special : SchemeKind.of url.scheme = .special) :
    ∃ own, r'.resolve none = .ok own ∧ own.scheme = url.scheme ∧ own.authority = url.authority ∧
      SlashAlike own.path.toString.toList url.path.toString.toList := by
  obtain ⟨hscheme, hurl⟩ := resolve_special read special
  obtain ⟨authority, rest, hread, whole⟩ := withAuthority_ok hurl
  let isSlash := fun c : Char => c == '/' || c == '\\'
  have after : SlashAlike (r'.body.dropWhile isSlash) (r.body.dropWhile isSlash) :=
    body.dropWhile isSlash
  obtain ⟨rfl, hown⟩ := readAuthority_congr (s := r') special (after.takeWhile_eq rfl).symm hread
  refine ⟨r'.complete url.scheme (some authority) (pathAfterAuthority (.of url.scheme)
    (fromSeparator (r'.body.dropWhile isSlash))), ?_, rfl, ?_, ?_⟩
  · unfold resolve
    rw [named, hscheme]
    simp only [special, Option.filter_none]
    unfold withAuthority
    rw [hown, special]
    rfl
  · exact (congrArg Url.authority whole).symm
  · rw [path_of_resolve read special]
    show SlashAlike (pathAfterAuthority (.of url.scheme) _).toString.toList _
    rw [special]
    exact pathAfterAuthority_slashAlike (after.dropWhile _)

/-! ## Cutting a text -/

/-- What stands before a colon is a scheme or not, whatever stands behind it. -/
theorem cutScheme_append_cons {before : List Char} (h : ':' ∉ before) :
    (∃ scheme, ∀ after, cutScheme (before ++ ':' :: after) = (some scheme, after)) ∨
      ∀ after, cutScheme (before ++ ':' :: after) = (none, before ++ ':' :: after) := by
  have cut : ∀ after, Text.cut ':' (before ++ ':' :: after) = (before, some after) :=
    Text.cut_append h
  cases before with
  | nil => exact .inr fun after => by rw [cutScheme, cut]
  | cons c name =>
    cases valid : c.isAlpha && name.all isSchemeChar with
    | true =>
      refine .inl ⟨String.ofList ((c :: name).map Char.toLower), fun after => ?_⟩
      rw [cutScheme, cut]
      exact if_pos valid
    | false =>
      refine .inr fun after => ?_
      rw [cutScheme, cut]
      exact if_neg (by simp [valid])

/-- Texts that differ in their last slashes have the same scheme. -/
theorem cutScheme_slashAlike {cs ds : List Char} (h : SlashAlike cs ds) :
    (cutScheme cs).1 = (cutScheme ds).1 ∧ SlashAlike (cutScheme cs).2 (cutScheme ds).2 := by
  obtain ⟨front, n, m, rfl, rfl⟩ := h
  by_cases colon : ':' ∈ front
  · obtain ⟨before, after, rfl, first⟩ := List.eq_append_cons_of_mem colon
    simp only [List.append_assoc, List.cons_append]
    rcases cutScheme_append_cons first with ⟨scheme, cut⟩ | cut
    · rw [cut, cut]
      exact ⟨rfl, after, n, m, rfl, rfl⟩
    · rw [cut, cut]
      exact ⟨rfl, before ++ ':' :: after, n, m, by simp, by simp⟩
  · have none : ∀ n, ':' ∉ front ++ List.replicate n '/' := by
      intro n hmem
      rcases List.mem_append.mp hmem with h | h
      · exact colon h
      · exact absurd (List.eq_of_mem_replicate h) (by decide)
    rw [cutScheme_of_not_mem (none n), cutScheme_of_not_mem (none m)]
    exact ⟨rfl, front, n, m, rfl, rfl⟩

/-- The last character that counts is a blank or a control. -/
def endsInBlank (cs : List Char) : Bool :=
  (cs.filter fun c => !isInner c).getLast?.any isOuter

/-- A text that ends in a slash does not end in a blank. -/
theorem endsInBlank_concat_slash (cs : List Char) : endsInBlank (cs ++ ['/']) = false := by
  rw [endsInBlank, List.filter_append]
  show ((cs.filter fun c => !isInner c) ++ ['/']).getLast?.any isOuter = false
  rw [List.getLast?_concat]
  decide

/-- A text that does not end in a blank is cleaned at its beginning only. -/
theorem clean_of_endsInBlank {cs : List Char} (h : endsInBlank cs = false) :
    clean cs = (cs.dropWhile isOuter).filter fun c => !isInner c := by
  have whole : cs = (cs.takeWhile isOuter ++ Text.dropEndWhile isOuter (cs.dropWhile isOuter)) ++
      (cs.dropWhile isOuter).rtakeWhile isOuter := by
    have inner : Text.dropEndWhile isOuter (cs.dropWhile isOuter) ++
        (cs.dropWhile isOuter).rtakeWhile isOuter = cs.dropWhile isOuter :=
      List.rdropWhile_append_rtakeWhile
    rw [List.append_assoc, inner, List.takeWhile_append_dropWhile]
  have tail : ((cs.dropWhile isOuter).rtakeWhile isOuter).filter (fun c => !isInner c) = [] := by
    cases hlast : (((cs.dropWhile isOuter).rtakeWhile isOuter).filter
        fun c => !isInner c).getLast? with
    | none => exact List.getLast?_eq_none_iff.mp hlast
    | some c =>
      have outer : isOuter c = true :=
        List.mem_rtakeWhile_imp (List.mem_filter.mp (List.mem_of_getLast? hlast)).1
      rw [endsInBlank, whole, List.filter_append, List.getLast?_append, hlast] at h
      simp [outer] at h
  rw [clean_eq]
  conv_rhs => rw [← List.rdropWhile_append_rtakeWhile (p := isOuter) (l := cs.dropWhile isOuter)]
  rw [List.filter_append, tail, List.append_nil]
  rfl

/-- Cleaning adds nothing. -/
theorem mem_of_mem_clean {cs : List Char} {c : Char} (h : c ∈ clean cs) : c ∈ cs := by
  rw [clean_eq] at h
  have outer := (List.rdropWhile_prefix (p := isOuter) (l := cs.dropWhile isOuter)).mem
    (List.mem_filter.mp h).1
  exact (List.dropWhile_suffix isOuter).mem outer

/-- Texts that do not end in blanks differ in no more once they are cleaned. -/
theorem clean_slashAlike {cs ds : List Char} (h : SlashAlike cs ds) (hcs : endsInBlank cs = false)
    (hds : endsInBlank ds = false) : SlashAlike (clean cs) (clean ds) := by
  rw [clean_of_endsInBlank hcs, clean_of_endsInBlank hds]
  exact (h.dropWhile isOuter).filter _

/-- The mark of a query or a fragment. -/
def isMark (c : Char) : Bool :=
  c == '?' || c == '#'

/-- What stands before the first mark. -/
def beforeMark (cs : List Char) : List Char :=
  (Text.cut '?' (Text.cut '#' cs).1).1

/-- A text without marks has none of the two. -/
theorem not_mem_of_isMark {cs : List Char} {mark : Char} (h : ∀ c ∈ cs, isMark c = false)
    (hmark : isMark mark = true) : mark ∉ cs := by
  intro hmem
  rw [h mark hmem] at hmark
  cases hmark

/-- All of a text without marks stands before them. -/
theorem beforeMark_eq_self {cs : List Char} (h : ∀ c ∈ cs, isMark c = false) :
    beforeMark cs = cs := by
  have absent : ∀ mark, isMark mark = true → mark ∉ cs := fun _ => not_mem_of_isMark h
  rw [beforeMark, Text.cut_of_not_mem (absent '#' rfl), Text.cut_of_not_mem (absent '?' rfl)]

/-- What stands before the first mark. -/
theorem beforeMark_append_cons {before : List Char} {mark : Char}
    (h : ∀ c ∈ before, isMark c = false) (hmark : isMark mark = true) (after : List Char) :
    beforeMark (before ++ mark :: after) = before := by
  have absent : ∀ mark, isMark mark = true → mark ∉ before := fun _ => not_mem_of_isMark h
  rcases (Bool.or_eq_true _ _).mp hmark with query | fragment
  · obtain rfl := beq_iff_eq.mp query
    rw [beforeMark, Text.cut_append_left (absent '#' rfl), Text.cut, if_neg (by decide),
      Text.cut_append (absent '?' rfl)]
  · obtain rfl := beq_iff_eq.mp fragment
    rw [beforeMark, Text.cut_append (absent '#' rfl), Text.cut_of_not_mem (absent '?' rfl)]

/-- What stands behind the first mark has no part in what stands before it. -/
theorem beforeMark_clean {before : List Char} {mark : Char}
    (h : ∀ c ∈ before, isMark c = false) (hmark : isMark mark = true) (after : List Char) :
    beforeMark (clean (before ++ mark :: after)) =
      (before.dropWhile isOuter).filter fun c => !isInner c := by
  have counts : isOuter mark = false := by
    rcases (Bool.or_eq_true _ _).mp hmark with h | h <;> rw [beq_iff_eq.mp h] <;> decide
  rw [clean_append_cons counts]
  refine beforeMark_append_cons (fun c hc => h c ?_) hmark _
  exact (List.dropWhile_suffix _).mem (List.mem_filter.mp hc).1

/-- Slashes at the end of a text with a mark have no part in what stands before the mark. -/
theorem beforeMark_clean_of_isMark {cs : List Char} (marked : cs.any isMark = true) :
    beforeMark (clean cs) = beforeMark (clean (Text.trimSlashes cs ++ ['/'])) := by
  obtain ⟨mark, found⟩ := Option.isSome_iff_exists.mp ((List.find?_isSome (p := isMark)).mpr
    (List.any_eq_true.mp marked))
  obtain ⟨hmark, before, after, rfl, plain⟩ := List.find?_eq_some_iff_append.mp found
  have plain : ∀ c ∈ before, isMark c = false := by simpa using plain
  have slash : (mark == '/') = false := by
    by_contra ne
    obtain rfl := beq_iff_eq.mp (Bool.not_eq_false _ ▸ ne)
    cases hmark
  have trimmed : Text.trimSlashes (before ++ mark :: after) =
      before ++ mark :: Text.trimSlashes after :=
    Text.dropEndWhile_append_cons (p := (· == '/')) slash before after
  rw [trimmed, List.append_assoc, List.cons_append, beforeMark_clean plain hmark,
    beforeMark_clean plain hmark]

/-- With one slash at its end instead of any number, a text is the same up to slashes before its first
mark, unless it ends in a blank there. -/
theorem beforeMark_clean_slashAlike {cs : List Char}
    (h : cs.any isMark = true ∨ endsInBlank cs = false) :
    SlashAlike (beforeMark (clean cs)) (beforeMark (clean (Text.trimSlashes cs ++ ['/']))) := by
  by_cases marked : cs.any isMark = true
  · rw [beforeMark_clean_of_isMark marked]
    exact .refl _
  · have plain : ∀ c ∈ cs, isMark c = false := by simpa using marked
    have blank : endsInBlank cs = false := h.resolve_left marked
    obtain ⟨n, hcs⟩ := Text.eq_trimSlashes_append cs
    have alike : SlashAlike cs (Text.trimSlashes cs ++ ['/']) := ⟨_, n, 1, hcs, rfl⟩
    have plain' : ∀ c ∈ Text.trimSlashes cs ++ ['/'], isMark c = false := by
      intro c hc
      rcases List.mem_append.mp hc with hc | hc
      · exact plain c (hcs ▸ List.mem_append_left _ hc)
      · rw [List.mem_singleton.mp hc]
        rfl
    rw [beforeMark_eq_self fun c hc => plain c (mem_of_mem_clean hc),
      beforeMark_eq_self fun c hc => plain' c (mem_of_mem_clean hc)]
    exact clean_slashAlike alike blank (endsInBlank_concat_slash _)

/-- The text before the first mark is the scheme and the body. -/
theorem ofString_cut (text : String) :
    ((ofString text).scheme, (ofString text).body) = cutScheme (beforeMark (clean text.toList)) := by
  unfold ofString beforeMark
  generalize Text.cut '#' (clean text.toList) = first
  obtain ⟨before, fragment⟩ := first
  dsimp only

/-- The body of a reference is what stands between the scheme and the first mark. -/
theorem body_ofString (text : String) :
    (ofString text).body = (cutScheme (beforeMark (clean text.toList))).2 := by
  rw [← ofString_cut]

end Reference

/-- **The law for a text with one slash at its end instead of any number.** -/
theorem parse_slashAlike {text : String} {url : Url}
    (h : text.toList.any Reference.isMark = true ∨ Reference.endsInBlank text.toList = false)
    (read : parse (String.ofList (Text.trimSlashes text.toList ++ ['/'])) = .ok url)
    (special : SchemeKind.of url.scheme = .special) :
    ∃ own, parse text = .ok own ∧ own.scheme = url.scheme ∧ own.authority = url.authority ∧
      SlashAlike own.path.toString.toList url.path.toString.toList := by
  obtain ⟨named, body⟩ := Reference.cutScheme_slashAlike (Reference.beforeMark_clean_slashAlike h)
  have own := Reference.ofString_cut text
  have base := Reference.ofString_cut (String.ofList (Text.trimSlashes text.toList ++ ['/']))
  rw [String.toList_ofList] at base
  rw [← own, ← base] at named body
  rw [parse] at read
  rw [parse]
  generalize Reference.ofString text = r' at named body ⊢
  generalize Reference.ofString (String.ofList (Text.trimSlashes text.toList ++ ['/'])) = r
    at named body read
  exact Reference.resolve_slashAlike named body read special

/-! ## Slashes within a path -/

/-- No slash comes from an escape. -/
theorem slash_not_mem_escape {segment : List Char} (h : '/' ∉ segment) :
    '/' ∉ Part.segment.escape segment := by
  have octets : ∀ n < 256, '/' ∉ Percent.escapeOctet (UInt8.ofNat n) := by decide +kernel
  intro hmem
  obtain ⟨c, hc, hmem⟩ := List.mem_flatMap.mp hmem
  rw [Part.escapeChar] at hmem
  split at hmem
  · obtain ⟨b, -, hb⟩ := List.mem_flatMap.mp hmem
    refine octets b.toNat b.toNat_lt ?_
    rwa [UInt8.ofNat_toNat]
  · exact h (List.mem_singleton.mp hmem ▸ hc)

/-- Segments without slashes lead to segments without slashes. -/
theorem slash_not_mem_step {reached : List String} {segment : List Char} (isLast : Bool)
    (hreached : ∀ part ∈ reached, '/' ∉ part.toList) (h : '/' ∉ segment) :
    ∀ part ∈ step .special reached segment isLast, '/' ∉ part.toList := by
  have ending : ∀ {front : List String}, (∀ part ∈ front, '/' ∉ part.toList) →
      ∀ part ∈ front ++ (if isLast then [""] else []), '/' ∉ part.toList := by
    intro front hfront part hpart
    rcases List.mem_append.mp hpart with hpart | hpart
    · exact hfront part hpart
    · split at hpart
      · rw [List.mem_singleton.mp hpart]
        simp
      · cases hpart
  have higher : ∀ part ∈ above reached, '/' ∉ part.toList := by
    intro part hpart
    unfold above at hpart
    split at hpart
    · split at hpart
      · exact hreached part hpart
      · exact hreached part (List.dropLast_subset reached hpart)
    · exact hreached part hpart
  intro part hpart
  unfold step at hpart
  dsimp only at hpart
  split at hpart
  · exact ending higher part hpart
  · split at hpart
    · exact ending hreached part hpart
    · rcases List.mem_append.mp hpart with hpart | hpart
      · exact hreached part hpart
      · have one : part = String.ofList (Part.segment.escape segment) := List.mem_singleton.mp hpart
        rw [one, String.toList_ofList]
        exact slash_not_mem_escape h

/-- So do many of them. -/
theorem slash_not_mem_walk {reached : List String} {segments : List (List Char)}
    (hreached : ∀ part ∈ reached, '/' ∉ part.toList) (h : ∀ segment ∈ segments, '/' ∉ segment) :
    ∀ part ∈ walk .special reached segments, '/' ∉ part.toList := by
  induction segments generalizing reached with
  | nil => exact hreached
  | cons segment segments ih =>
    obtain ⟨first, others⟩ := List.forall_mem_cons.mp h
    exact ih (slash_not_mem_step segments.isEmpty hreached first) others

/-- At least one segment is reached through one. -/
theorem walk_ne_nil (reached : List String) {segments : List (List Char)} (ne : segments ≠ []) :
    walk .special reached segments ≠ [] := by
  induction segments generalizing reached with
  | nil => exact absurd rfl ne
  | cons segment segments ih =>
    cases segments with
    | cons next segments => exact ih _ (List.cons_ne_nil next segments)
    | nil =>
      show step .special reached segment true ≠ []
      unfold step
      dsimp only
      split
      · simp
      · split
        · simp
        · exact List.append_ne_nil_of_right_ne_nil _ (List.cons_ne_nil _ _)

/-- The path of the URL has a last segment, and there is no slash in it. -/
def HasLastSegment (u : Url) : Prop :=
  ∃ front last, u.path = .segments (front ++ [last]) ∧ '/' ∉ last.toList

/-- A special URL that was read has an authority and a last segment. -/
theorem hasLastSegment_of_parse {text : String} {url : Url} (read : parse text = .ok url)
    (special : SchemeKind.of url.scheme = .special) :
    url.HasLastSegment := by
  have path := Reference.path_of_resolve read special
  generalize Reference.fromSeparator _ = rest at path
  have parts : ∃ parts, Reference.pathAfterAuthority .special rest = .segments parts ∧ parts ≠ [] ∧
      ∀ part ∈ parts, '/' ∉ part.toList := by
    cases rest with
    | nil => exact ⟨[""], rfl, by simp, by simp⟩
    | cons c rest =>
      refine ⟨_, rfl, walk_ne_nil _ (Text.split_ne_nil _ _), ?_⟩
      refine slash_not_mem_walk (by simp) fun segment hsegment => ?_
      exact Text.not_mem_of_mem_split hsegment
  obtain ⟨parts, hpath, ne, within⟩ := parts
  refine ⟨parts.dropLast, parts.getLast ne, ?_, within _ (List.getLast_mem ne)⟩
  rw [List.dropLast_append_getLast, ← hpath]
  exact path

/-- A text below a URL takes the place of its last segment. -/
theorem toList_path_below {base : Url} {front : List String} {last : String}
    (hpath : base.path = .segments (front ++ [last])) (cs : List Char) :
    ∃ text, base.path.toString.toList = text ++ '/' :: last.toList ∧
      (base.below cs).path.toString.toList = text ++ '/' :: (Text.cut '?' cs).1 := by
  refine ⟨front.flatMap fun part => '/' :: part.toList, ?_, ?_⟩
  · rw [hpath, Path.toList_segments]
    simp
  · rw [below, hpath, Path.toList_segments, Path.parts, List.dropLast_concat, List.flatMap_append,
      List.flatMap_map]
    simp only [String.toList_ofList]
    rw [← Text.cons_join '/' (Text.split_ne_nil _ _), Text.join_split]

end Url

end AnalysisSettings

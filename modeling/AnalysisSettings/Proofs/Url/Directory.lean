import AnalysisSettings.Proofs.Except
import AnalysisSettings.Url.Reference

/-!
# Directories

A URL of a special scheme that ends in a slash is a *directory*: the last segment of its path is
empty, and it has neither a query nor a fragment. A text that ends in a slash, and has no other mark
of a URL behind its scheme, is read as one (`isDirectory_of_parse`), whatever credentials, port and
directions are in it.

A text that means nothing but itself (`Literal`) stands for the URL `Url.below` where it is seen from a
special URL (`join_literal`). Seen from a directory it is appended: the text of that URL is the text of
the directory followed by the text itself (`toString_below`).
-/

namespace AnalysisSettings.Url

/-- The URL is special, has a host, ends in a slash and has nothing behind its path. -/
structure IsDirectory (u : Url) : Prop where
  special : SchemeKind.of u.scheme = .special
  authority : ∃ a, u.authority = some a
  path : ∃ front, u.path = .segments (front ++ [""])
  query : u.query = none
  fragment : u.fragment = none

/-! ## Texts that end in a slash -/

section EndsInSlash

variable {cs : List Char}

/-- A text that ends in a slash does so where it is not all in front. -/
theorem getLast?_of_append {before after : List Char} (ne : after ≠ [])
    (h : (before ++ after).getLast? = some '/') : after.getLast? = some '/' := by
  cases hafter : after.getLast? with
  | none => exact absurd (List.getLast?_eq_none_iff.mp hafter) ne
  | some c =>
    rw [List.getLast?_append, hafter] at h
    exact h

/-- A text that ends in a slash goes on behind any other character. -/
theorem getLast?_of_append_cons {before after : List Char} {c : Char} (hc : c ≠ '/')
    (h : (before ++ c :: after).getLast? = some '/') : after.getLast? = some '/' := by
  cases after with
  | nil =>
    rw [List.getLast?_concat] at h
    exact absurd (Option.some.inj h) hc
  | cons d after =>
    rw [List.append_cons] at h
    exact getLast?_of_append (List.cons_ne_nil d after) h

/-- A text that ends in a slash does so without some of its front. -/
theorem getLast?_dropWhile {p : Char → Bool} (hp : p '/' = false)
    (h : cs.getLast? = some '/') : (cs.dropWhile p).getLast? = some '/' := by
  obtain ⟨front, rfl⟩ := List.getLast?_eq_some_iff.mp h
  rw [List.dropWhile_append]
  split
  · rw [List.dropWhile_cons_of_neg (by simp [hp])]
    rfl
  · exact List.getLast?_concat

/-- An empty segment at the end is reached as it is. -/
theorem walk_concat_nil (kind : SchemeKind) (reached : List String) (segments : List (List Char)) :
    ∃ front, walk kind reached (segments ++ [[]]) = front ++ [""] := by
  induction segments generalizing reached with
  | nil =>
    refine ⟨reached, ?_⟩
    show reached ++ (addedSegments (kind == .file && reached.isEmpty) []).map String.ofList = _
    cases kind == .file && reached.isEmpty <;> rfl
  | cons segment segments ih => exact ih _

/-- A slash at the end of a path leaves an empty segment behind it. -/
@[simp] theorem splitSegments_concat (cs : List Char) :
    splitSegments .special (cs ++ ['/']) = splitSegments .special cs ++ [[]] := by
  rw [splitSegments, List.map_append]
  exact Text.split_concat '/' _

/-- A path that ends in a slash, or is empty, ends with an empty segment. -/
theorem pathFrom_special (reached : List String) (h : cs ≠ [] → cs.getLast? = some '/') :
    ∃ front, pathFrom .special reached cs = front ++ [""] := by
  by_cases ne : cs = []
  · subst ne
    exact walk_concat_nil .special reached []
  · obtain ⟨front, rfl⟩ := List.getLast?_eq_some_iff.mp (h ne)
    show ∃ front', walk .special reached (splitSegments .special (front ++ ['/'])) = _
    rw [splitSegments_concat]
    exact walk_concat_nil .special reached _

end EndsInSlash

namespace Reference

/-! ## Reading a directory -/

variable {r : Reference} {scheme : String} {cs rest : List Char} {url : Url}

/-- A text behind an authority that ends in a slash is the path of a directory. -/
theorem pathAfterAuthority_special (h : cs.getLast? = some '/') :
    ∃ front, pathAfterAuthority .special cs = .segments (front ++ [""]) := by
  cases cs with
  | nil => cases h
  | cons c rest =>
    have inner : ∃ front, pathFrom .special []
        (if SchemeKind.special.isSeparator c then rest else c :: rest) = front ++ [""] := by
      apply pathFrom_special
      split
      · intro ne
        exact getLast?_of_append ne (show ([c] ++ rest).getLast? = some '/' from h)
      · intro _
        exact h
    obtain ⟨front, hfront⟩ := inner
    exact ⟨front, congrArg Path.segments hfront⟩

/-- An authority that was read has a host, and what is left begins no later than the first
separator. -/
theorem readAuthority_ok {authority : Authority}
    (read : r.readAuthority scheme cs = .ok (authority, rest)) :
    let isInner := fun c => !(SchemeKind.of scheme).isSeparator c
    Host.read (.of scheme) (cutPort false (cutCredentials (cs.takeWhile isInner)).2).1 =
        .ok authority.host ∧
      ∃ afterPort, rest = afterPort ++ cs.dropWhile isInner := by
  unfold readAuthority at read
  simp only [bind, Except.bind, throw, throwThe, MonadExceptOf.throw, pure, Except.pure] at read
  split at read
  · cases read
  · split at read
    · cases read
    · next host hhost =>
      split at read
      · cases read
      · split at read
        · cases read
        · split at read
          · cases read
          · cases read
            exact ⟨hhost, _, rfl⟩

/-- What is left behind the authority of a text that ends in a slash still does. -/
theorem readAuthority_rest {authority : Authority} (kind : SchemeKind.of scheme = .special)
    (h : cs ≠ [] → cs.getLast? = some '/')
    (read : r.readAuthority scheme cs = .ok (authority, rest)) : rest.getLast? = some '/' := by
  obtain ⟨host, afterPort, rfl⟩ := readAuthority_ok read
  rw [kind] at host ⊢
  cases cs with
  | nil => cases host -- where nothing is left there is no host either
  | cons c cs =>
    have ends := h (List.cons_ne_nil c cs)
    rw [List.getLast?_append, getLast?_dropWhile rfl ends]
    rfl

/-- A URL with an authority is read from its authority and the path behind it. -/
theorem withAuthority_ok (read : r.withAuthority scheme cs = .ok url) :
    ∃ authority rest, r.readAuthority scheme cs = .ok (authority, rest) ∧
      url = r.complete scheme (some authority) (pathAfterAuthority (.of scheme) rest) := by
  unfold withAuthority at read
  obtain ⟨⟨authority, rest⟩, hread, completed⟩ := bind_eq_ok.mp read
  exact ⟨authority, rest, hread, (Except.ok.inj completed).symm⟩

/-- A text without query and fragment that ends in a slash is a directory. -/
theorem withAuthority_isDirectory (kind : SchemeKind.of scheme = .special)
    (h : cs ≠ [] → cs.getLast? = some '/') (query : r.query = none) (fragment : r.fragment = none)
    (read : r.withAuthority scheme cs = .ok url) : url.IsDirectory := by
  obtain ⟨authority, rest, hread, rfl⟩ := withAuthority_ok read
  rw [kind]
  obtain ⟨front, hpath⟩ := pathAfterAuthority_special (readAuthority_rest kind h hread)
  exact ⟨kind, ⟨authority, rfl⟩, ⟨front, hpath⟩, by simp [complete, escapedQuery, query],
    by simp [complete, escapedFragment, fragment]⟩

/-- A file URL has the scheme of files. -/
theorem withFileHost_scheme (read : r.withFileHost cs = .ok url) : url.scheme = "file" := by
  unfold withFileHost at read
  simp only [bind, Except.bind, pure, Except.pure] at read
  split at read
  · cases read
    rfl
  · split at read <;> cases read
    rfl

/-- A reference to a file has the scheme of files. -/
theorem toFile_scheme (read : r.toFile none = .ok url) : url.scheme = "file" := by
  unfold toFile at read
  dsimp only at read
  split at read
  · split at read
    · exact withFileHost_scheme read
    · split at read <;> cases read <;> rfl
  · next h => cases h
  · cases read
    rfl

/-- A special URL without a base is read from its authority on. -/
theorem resolve_special (read : r.resolve none = .ok url)
    (special : SchemeKind.of url.scheme = .special) :
    r.scheme = some url.scheme ∧
      r.withAuthority url.scheme (r.body.dropWhile fun c => c == '/' || c == '\\') = .ok url := by
  unfold resolve at read
  split at read
  · next scheme hscheme =>
    split at read
    · rw [toFile_scheme read] at special
      cases special
    · next kind =>
      obtain ⟨authority, rest, -, hurl⟩ := withAuthority_ok read
      have named : url.scheme = scheme := by rw [hurl, complete]
      rw [named]
      exact ⟨hscheme, read⟩
    · next kind =>
      -- whatever the body is, the URL has the scheme that was read, which is not special
      have named : url.scheme = scheme := by
        split at read
        · obtain ⟨authority, rest, -, rfl⟩ := withAuthority_ok read
          rfl
        · cases read
          rfl
        · cases read
          rfl
      rw [named, kind] at special
      cases special
  · cases read
  · next h => cases h

/-- A reference without query and fragment that ends in a slash is a directory. -/
theorem resolve_isDirectory (h : r.body.getLast? = some '/') (query : r.query = none)
    (fragment : r.fragment = none) (read : r.resolve none = .ok url)
    (special : SchemeKind.of url.scheme = .special) : url.IsDirectory := by
  refine withAuthority_isDirectory special (fun ne => ?_) query fragment
    (resolve_special read special).2
  apply getLast?_of_append ne
  rw [List.takeWhile_append_dropWhile]
  exact h

/-! ## Cutting a text -/

/-- A blank or a control. It does not count at the ends of a text. -/
def isOuter (c : Char) : Bool :=
  c.toNat ≤ 0x20

/-- A line end or a tab. It counts nowhere. -/
def isInner (c : Char) : Bool :=
  c == '\t' || c == '\n' || c == '\r'

/-- Cleaning drops blanks and controls at the ends, and line ends and tabs within. -/
theorem clean_eq (cs : List Char) :
    clean cs = (Text.dropEndWhile isOuter (cs.dropWhile isOuter)).filter fun c => !isInner c := rfl

/-- What counts nowhere does not count at the ends. -/
theorem isOuter_of_isInner {c : Char} (h : isInner c = true) : isOuter c = true := by
  simp only [isInner, Bool.or_eq_true, beq_iff_eq] at h
  rcases h with (rfl | rfl) | rfl <;> decide

/-- What counts at the ends counts everywhere. -/
theorem isInner_eq_false {c : Char} (h : isOuter c = false) : isInner c = false :=
  Bool.eq_false_iff.mpr fun inner => Bool.eq_false_iff.mp h (isOuter_of_isInner inner)

/-- A text without blanks and controls counts as a whole. -/
theorem clean_eq_self (h : ∀ c ∈ cs, 0x20 < c.toNat) : clean cs = cs := by
  have counts : ∀ c ∈ cs, isOuter c = false := fun c hc =>
    decide_eq_false (Nat.not_le.mpr (h c hc))
  have outer : ∀ ds : List Char, (∀ c ∈ ds, c ∈ cs) → ds.dropWhile isOuter = ds := by
    intro ds hds
    cases ds with
    | nil => rfl
    | cons d ds =>
      exact List.dropWhile_cons_of_neg (by simp [counts d (hds d List.mem_cons_self)])
  rw [clean_eq, outer cs fun _ => id, Text.dropEndWhile,
    outer cs.reverse fun _ => List.mem_reverse.mp, List.reverse_reverse, List.filter_eq_self]
  intro c hc
  rw [isInner_eq_false (counts c hc)]
  rfl

/-- The text is cleaned on the two sides of a character that counts. -/
theorem clean_append_cons {c : Char} (hc : isOuter c = false) (before after : List Char) :
    clean (before ++ c :: after) = ((before.dropWhile isOuter).filter fun d => !isInner d) ++
      c :: (Text.dropEndWhile isOuter after).filter fun d => !isInner d := by
  have front : (before ++ c :: after).dropWhile isOuter =
      before.dropWhile isOuter ++ c :: after := by
    rw [List.dropWhile_append]
    split
    · next none => rw [List.isEmpty_iff.mp none, List.dropWhile_cons_of_neg (by simp [hc])]; rfl
    · rfl
  rw [clean_eq, front, Text.dropEndWhile_append_cons hc, List.filter_append, List.filter_cons_of_pos]
  simp [isInner_eq_false hc]

/-- Cleaning leaves a slash at the end where it is, and adds nothing. -/
theorem clean_concat_slash (cs : List Char) :
    ∃ cleaned, clean (cs ++ ['/']) = cleaned ++ ['/'] ∧ ∀ c ∈ cleaned, c ∈ cs := by
  refine ⟨(cs.dropWhile isOuter).filter fun c => !isInner c, ?_, ?_⟩
  · exact clean_append_cons (by decide) cs []
  · intro c hc
    exact (List.dropWhile_suffix _).mem (List.mem_filter.mp hc).1

/-- Without a colon there is no scheme. -/
theorem cutScheme_of_not_mem (h : ':' ∉ cs) : cutScheme cs = (none, cs) := by
  rw [cutScheme, Text.cut_of_not_mem h]
  cases cs <;> rfl

/-- A text that ends in a slash does so behind its scheme. -/
theorem getLast?_cutScheme (h : cs.getLast? = some '/') :
    (cutScheme cs).2.getLast? = some '/' := by
  have whole := Text.append_cut ':' cs
  unfold cutScheme
  split
  · next c name rest hcut =>
    split
    · rw [hcut] at whole
      rw [← whole] at h
      exact getLast?_of_append_cons (by decide) h
    · exact h
  · exact h

end Reference

/-- **A text that ends in a slash is read as a directory**, if it has no other mark of a URL and its
scheme is special. -/
theorem isDirectory_of_parse {text : String} {cs : List Char} {url : Url}
    (ends : text.toList = cs ++ ['/']) (noQuery : '?' ∉ cs) (noFragment : '#' ∉ cs)
    (read : parse text = .ok url) (special : SchemeKind.of url.scheme = .special) :
    url.IsDirectory := by
  obtain ⟨cleaned, hclean, sub⟩ := Reference.clean_concat_slash cs
  have absent : ∀ mark : Char, mark ≠ '/' → mark ∉ cs → mark ∉ cleaned ++ ['/'] := by
    intro mark ne hmark hmem
    rcases List.mem_append.mp hmem with h | h
    · exact hmark (sub _ h)
    · exact ne (List.mem_singleton.mp h)
  have cut : Reference.ofString text =
      ⟨(Reference.cutScheme (cleaned ++ ['/'])).1, (Reference.cutScheme (cleaned ++ ['/'])).2, none,
        none⟩ := by
    rw [Reference.ofString, ends, hclean, Text.cut_of_not_mem (absent '#' (by decide) noFragment)]
    dsimp only
    rw [Text.cut_of_not_mem (absent '?' (by decide) noQuery)]
  rw [parse, cut] at read
  exact Reference.resolve_isDirectory (Reference.getLast?_cutScheme List.getLast?_concat) rfl rfl
    read special

/-! ## Below a directory -/

/-- A character without a meaning of its own in a path or a query, or one that divides them. -/
def isOrdinary (c : Char) : Bool :=
  Percent.isPlain c || ['/', '?', '&', '='].contains c

/-- A text that stands for itself where it is seen from a directory: it does not begin with a slash,
and no segment of it is a direction. -/
structure Literal (cs : List Char) : Prop where
  ordinary : ∀ c ∈ cs, isOrdinary c = true
  relative : ∃ c rest, (Text.cut '?' cs).1 = c :: rest ∧ c ≠ '/'
  straight : ∀ segment ∈ Text.split '/' (Text.cut '?' cs).1,
    isHere segment = false ∧ isAbove segment = false

/-- The URL of a text below another URL: the segments of the text follow those of the URL, in the
place of the last one, and the query is that of the text. -/
def below (base : Url) (cs : List Char) : Url :=
  { base with
    path := .segments (base.path.parts.dropLast ++
      (Text.split '/' (Text.cut '?' cs).1).map String.ofList)
    query := (Text.cut '?' cs).2.map String.ofList }

/-- There is no fragment below a directory. -/
theorem IsDirectory.withoutFragment_below {base : Url} (dir : base.IsDirectory) (cs : List Char) :
    (base.below cs).withoutFragment = base.below cs := by
  rw [withoutFragment, below, dir.fragment]

/-- Segments are written with a slash before each. -/
theorem join_segments {parts : List (List Char)} (ne : parts ≠ []) :
    String.join ((parts.map String.ofList).map ("/" ++ ·)) =
      String.ofList ('/' :: Text.join '/' parts) := by
  apply String.toList_inj.mp
  rw [Text.cons_join '/' ne]
  simp [String.toList_join, List.flatMap_map]

/-- Below a directory, texts are appended. -/
theorem toString_below {base : Url} (dir : base.IsDirectory) (cs : List Char) :
    (base.below cs).toString = base.toString ++ String.ofList cs := by
  obtain ⟨a, ha⟩ := dir.authority
  obtain ⟨front, hpath⟩ := dir.path
  have path : (base.below cs).path.toString =
      base.path.toString ++ String.ofList (Text.cut '?' cs).1 := by
    have parts : Text.split '/' (Text.cut '?' cs).1 ≠ [] := Text.split_ne_nil _ _
    rw [below, hpath]
    simp only [Path.toString, Path.parts, List.dropLast_concat, List.map_append, String.join_append,
      join_segments parts, Text.join_split, String.append_assoc]
    apply String.toList_inj.mp
    simp [String.toList_join]
  have query : writeOptional "?" (base.below cs).query =
      String.ofList (((Text.cut '?' cs).2.map ('?' :: ·)).getD []) := by
    rw [below]
    apply String.toList_inj.mp
    cases (Text.cut '?' cs).2 <;> simp [writeOptional]
  have text : String.ofList cs = String.ofList (Text.cut '?' cs).1 ++
      String.ofList (((Text.cut '?' cs).2.map ('?' :: ·)).getD []) := by
    rw [← String.ofList_append, Text.append_cut]
  have authority : (base.below cs).authority = some a := ha
  have fragment : (base.below cs).fragment = none := dir.fragment
  rw [toString, toString, authority, ha, path, query, text, dir.query, fragment, dir.fragment]
  simp only [writeOptional, String.append_empty, String.append_assoc]
  rfl

/-! ## Seen from a directory -/

/-- Ordinary characters are ASCII. -/
theorem isOrdinary_bound {c : Char} (h : isOrdinary c = true) : c.toNat < 0x80 := by
  -- over a list: all characters would be too many to decide
  have small : (['-', '_', '.', '~', '%'] ++ ['/', '?', '&', '=']).all (·.toNat < 0x80) = true := by
    decide
  have marks : ∀ mark ∈ ['-', '_', '.', '~', '%'] ++ ['/', '?', '&', '='], mark.toNat < 0x80 :=
    fun mark hmark => of_decide_eq_true (List.all_eq_true.mp small mark hmark)
  simp only [isOrdinary, Percent.isPlain, Bool.or_eq_true, List.contains_iff_mem] at h
  rcases h with (letter | mark) | mark
  · rcases (Bool.or_eq_true _ _).mp letter with letter | digit
    · rcases (Bool.or_eq_true _ _).mp letter with upper | lower
      · have bound : 'A'.val ≤ c.val ∧ c.val ≤ 'Z'.val := of_decide_eq_true upper
        exact Nat.lt_of_le_of_lt (UInt32.le_iff_toNat_le.mp bound.2) (by decide)
      · have bound := of_decide_eq_true ((Bool.and_eq_true _ _).mp lower).2
        exact Nat.lt_of_le_of_lt (UInt32.le_iff_toNat_le.mp bound) (by decide)
    · exact Nat.lt_of_le_of_lt (Char.isDigit_iff_toNat.mp digit).2 (by decide)
  · exact marks c (List.mem_append_left _ mark)
  · exact marks c (List.mem_append_right _ mark)

/-- Ordinary characters are no marks of a URL, and stand in a path and a query as they are. -/
theorem isOrdinary_spec {c : Char} (h : isOrdinary c = true) :
    0x20 < c.toNat ∧ c ∉ ['#', ':', '\\'] ∧ Part.specialQuery.escapes c = false ∧
      (c ≠ '?' → Part.segment.escapes c = false) := by
  have all : ∀ n < 0x80, isOrdinary (Char.ofNat n) = true →
      0x20 < (Char.ofNat n).toNat ∧ Char.ofNat n ∉ ['#', ':', '\\'] ∧
        Part.specialQuery.escapes (Char.ofNat n) = false ∧
        (Char.ofNat n ≠ '?' → Part.segment.escapes (Char.ofNat n) = false) := by decide
  have facts := all c.toNat (isOrdinary_bound h)
  rw [Char.ofNat_toNat] at facts
  exact facts h

/-- Segments that are no directions and need no escapes are walked along as they are. -/
theorem walk_straight (reached : List String) {segments : List (List Char)}
    (plain : ∀ segment ∈ segments, ∀ c ∈ segment, Part.segment.escapes c = false)
    (straight : ∀ segment ∈ segments, isHere segment = false ∧ isAbove segment = false) :
    walk .special reached segments = reached ++ segments.map String.ofList := by
  induction segments generalizing reached with
  | nil => exact (List.append_nil _).symm
  | cons segment segments ih =>
    obtain ⟨hplain, plain⟩ := List.forall_mem_cons.mp plain
    obtain ⟨⟨notHere, notAbove⟩, straight⟩ := List.forall_mem_cons.mp straight
    have one : step .special reached segment segments.isEmpty = reached ++ [String.ofList segment] := by
      unfold step
      rw [Part.escape_eq_self hplain]
      simp only [notAbove, notHere, Bool.false_eq_true, if_false]
      rfl
    rw [walk, one, ih _ plain straight, List.append_assoc]
    rfl

namespace Reference

/-- A reference that begins with no slash goes on from the segments of the base. -/
theorem relativeTo_of_not_slash {r : Reference} {base : Url} {c : Char} {rest : List Char}
    (body : r.body = c :: rest) (slash : c ≠ '/') (backslash : c ≠ '\\') :
    r.relativeTo base = .ok (r.complete base.scheme base.authority
      (.segments (pathFrom (.of base.scheme) (startingPoint base) (c :: rest)))) := by
  unfold relativeTo
  rw [body]
  have mark : (c == '/' || c == '\\') = false := by simp [slash, backslash]
  split
  · next heq => cases heq
  · next heq =>
    cases heq
    exact absurd rfl slash
  · next heq =>
    cases heq
    simp [mark]
  · next heq =>
    cases heq
    simp [mark]

/-- A literal text is cut at its question mark only. -/
theorem ofString_literal {cs : List Char} (h : Literal cs) :
    ofString (String.ofList cs) = ⟨none, (Text.cut '?' cs).1, (Text.cut '?' cs).2, none⟩ := by
  have absent : ∀ mark ∈ ['#', ':', '\\'], mark ∉ cs := by
    intro mark hmark hmem
    exact (isOrdinary_spec (h.ordinary mark hmem)).2.1 hmark
  have body : ':' ∉ (Text.cut '?' cs).1 := fun hmem =>
    absent ':' (by decide) (Text.mem_of_mem_cut hmem)
  rw [ofString, String.toList_ofList, clean_eq_self fun c hc => (isOrdinary_spec (h.ordinary c hc)).1,
    Text.cut_of_not_mem (absent '#' (by decide))]
  dsimp only
  rw [cutScheme_of_not_mem body]

end Reference

/-- **A literal text seen from a special URL is read below it**, whatever stands behind the path of
that URL. -/
theorem join_literal {base : Url} {parts : List String}
    (special : SchemeKind.of base.scheme = .special) (hpath : base.path = .segments parts)
    {cs : List Char} (h : Literal cs) :
    base.join (String.ofList cs) = .ok (base.below cs).withoutFragment := by
  obtain ⟨c, rest, hbody, slash⟩ := h.relative
  have inBody : ∀ d ∈ (Text.cut '?' cs).1, d ≠ '\\' ∧ Part.segment.escapes d = false := by
    intro d hd
    obtain ⟨-, marks, -, segment⟩ := isOrdinary_spec (h.ordinary d (Text.mem_of_mem_cut hd))
    refine ⟨?_, segment ?_⟩
    · rintro rfl
      exact marks (by decide)
    · rintro rfl
      exact Text.not_mem_cut '?' cs hd
  have notFile : base.scheme ≠ "file" := by
    intro file
    rw [file] at special
    cases special
  have path : pathFrom (.of base.scheme) (Reference.startingPoint base) (Text.cut '?' cs).1 =
      parts.dropLast ++ (Text.split '/' (Text.cut '?' cs).1).map String.ofList := by
    have start : Reference.startingPoint base = parts.dropLast := by
      simp [Reference.startingPoint, notFile, hpath, Path.parts]
    have segments : splitSegments .special (Text.cut '?' cs).1 =
        Text.split '/' (Text.cut '?' cs).1 := by
      have same : ∀ d ∈ (Text.cut '?' cs).1,
          (if SchemeKind.special.isSeparator d then '/' else d) = d := by
        intro d hd
        have := (inBody d hd).1
        by_cases hd' : d = '/' <;> simp [SchemeKind.isSeparator, this, hd']
      rw [splitSegments, List.map_congr_left same, List.map_id']
    rw [special, start]
    show walk .special parts.dropLast (splitSegments .special _) = _
    rw [segments]
    refine walk_straight _ (fun segment hsegment d hd => ?_) h.straight
    exact (inBody d (Text.mem_of_mem_split hsegment hd)).2
  have query : ((Text.cut '?' cs).2.map fun q => String.ofList (Part.specialQuery.escape q)) =
      (Text.cut '?' cs).2.map String.ofList := by
    cases hquery : (Text.cut '?' cs).2 with
    | none => rfl
    | some q =>
      have plain : Part.specialQuery.escape q = q := Part.escape_eq_self fun d hd =>
        (isOrdinary_spec (h.ordinary d (Text.mem_of_mem_cut_some hquery hd))).2.2.1
      rw [Option.map_some, Option.map_some, plain]
  rw [join, Reference.ofString_literal h]
  unfold Reference.resolve
  simp only [hbody, hpath, List.isEmpty_cons, Bool.false_eq_true, false_and, if_false, notFile]
  rw [Reference.relativeTo_of_not_slash rfl slash (inBody c (hbody ▸ List.mem_cons_self)).1,
    ← hbody, path]
  unfold Reference.complete Reference.escapedQuery below withoutFragment
  simp only [special, query, hpath, Path.parts]
  rfl

end AnalysisSettings.Url

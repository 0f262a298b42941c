import AnalysisSettings.Proofs.Url.Slashes

/-!
# Texts that end in a name

Most addresses end in a name: behind their last separator stands a segment that is no direction
(`IsName`). A URL that is read from such a text and one slash has a path that ends in this name and
one slash (`endsInOneSlash_of_parse`), whatever stands in front of the name.

The reader drops what it does not need from the front of the text only: blanks, the scheme, the slashes
behind it and the authority. So what it reads as the path is the end of the text. It begins with a
separator, and therefore has the whole name or is the slash behind it (`suffix_of_name`).

The texts with a query or a fragment are the others. There the slash has no part in the path
(`path_eq_of_isMark`).
-/

namespace AnalysisSettings.Url

open Text (EndsInOneSlash trimSlashes)

/-- A segment that is no direction, and of which nothing is dropped. It may need escapes. -/
structure IsName (name : List Char) : Prop where
  ne : name ≠ []
  counts : ∀ c ∈ name, Reference.isOuter c = false
  within : ∀ c ∈ name, SchemeKind.special.isSeparator c = false
  straight : isHere (Part.segment.escape name) = false ∧ isAbove (Part.segment.escape name) = false

namespace IsName

variable {name : List Char}

/-- There is no slash in a name. -/
theorem slash_not_mem (h : IsName name) : '/' ∉ name := by
  intro hmem
  have inner := h.within '/' hmem
  cases inner

/-- Something is left of a name when it is escaped. -/
theorem escape_ne_nil (h : IsName name) : Part.segment.escape name ≠ [] := by
  obtain ⟨c, cs, rfl⟩ := List.exists_cons_of_ne_nil h.ne
  intro empty
  have first : Part.segment.escapeChar c = [] := (List.append_eq_nil_iff.mp empty).1
  unfold Part.escapeChar at first
  split at first
  · have octets : String.utf8EncodeChar c = [] := by
      cases hoctets : String.utf8EncodeChar c with
      | nil => rfl
      | cons b bs => rw [hoctets] at first; cases first
    have size := congrArg List.length octets
    rw [String.length_utf8EncodeChar] at size
    exact absurd size (Nat.ne_of_gt c.utf8Size_pos)
  · cases first

/-- A name is reached as it is, whether it is the last segment or not. -/
theorem step (h : IsName name) (reached : List String) (isLast : Bool) :
    Url.step .special reached name isLast =
      reached ++ [String.ofList (Part.segment.escape name)] := by
  unfold Url.step
  dsimp only
  rw [h.straight.1, h.straight.2]
  rfl

/-- Segments that end in a name and an empty one are reached with this end. -/
theorem walk (h : IsName name) (reached : List String) (segments : List (List Char)) :
    ∃ front, Url.walk .special reached (segments ++ [name, []]) =
      front ++ [String.ofList (Part.segment.escape name), ""] := by
  induction segments generalizing reached with
  | nil =>
    refine ⟨reached, ?_⟩
    show Url.walk .special reached [name, []] = _
    rw [Url.walk, h.step, Url.walk, step_nil, Url.walk]
    simp
  | cons segment segments ih => exact ih _

/-- The segments of a text that ends in a separator, a name and a slash. -/
theorem splitSegments (h : IsName name) {sep : Char}
    (separator : SchemeKind.special.isSeparator sep = true) (before : List Char) :
    Url.splitSegments .special (before ++ sep :: (name ++ ['/'])) =
      Url.splitSegments .special before ++ [name, []] := by
  have same : name.map (fun c => if SchemeKind.special.isSeparator c then '/' else c) = name := by
    refine (List.map_congr_left fun c hc => ?_).trans name.map_id
    simp [h.within c hc]
  rw [Url.splitSegments, List.map_append, List.map_cons, if_pos separator, List.map_append, same,
    Text.split_append_cons]
  show _ ++ Text.split '/' (name ++ ['/']) = _
  rw [Text.split_append h.slash_not_mem]
  rfl

/-- An end of a text with a name behind its last separator has the whole name, or is the slash behind
it, if it begins with a separator. -/
theorem suffix (h : IsName name) {sep : Char} {before cs : List Char}
    (ends : cs <:+ before ++ sep :: (name ++ ['/']))
    (starts : ∃ c rest, cs = c :: rest ∧ SchemeKind.special.isSeparator c = true) :
    cs = ['/'] ∨ ∃ front, cs = front ++ sep :: (name ++ ['/']) := by
  obtain ⟨c, rest, rfl, separator⟩ := starts
  obtain ⟨skipped, whole⟩ := ends
  rcases List.append_eq_append_iff.mp whole with ⟨front, -, hcs⟩ | ⟨part, -, hcs⟩
  · exact .inr ⟨front, hcs⟩
  · cases part with
    | nil => exact .inr ⟨[], hcs.symm⟩
    | cons d part =>
      obtain ⟨-, inner⟩ := List.cons.inj hcs
      rcases List.append_eq_append_iff.mp inner with ⟨slash, -, hslash⟩ | ⟨left, hleft, hcs⟩
      · cases slash with
        | nil => exact .inl hslash.symm
        | cons d slash => cases slash <;> cases hslash
      · cases left with
        | nil => exact .inl hcs
        | cons d left =>
          -- the end would begin within the name, where no separator is
          obtain ⟨rfl, -⟩ := List.cons.inj hcs
          rw [h.within c (hleft ▸ List.mem_append_right _ List.mem_cons_self)] at separator
          cases separator

end IsName

namespace Reference

variable {name before cs : List Char} {sep : Char}

/-- Nothing behind the last separator is dropped, because all of it counts. -/
theorem clean_name (h : IsName name) (separator : SchemeKind.special.isSeparator sep = true)
    (front : List Char) :
    clean (front ++ sep :: (name ++ ['/'])) =
      ((front.dropWhile isOuter).filter fun c => !isInner c) ++ sep :: (name ++ ['/']) := by
  have counts : isOuter sep = false := by
    rcases (Bool.or_eq_true _ _).mp separator with slash | backslash
    · rw [beq_iff_eq.mp slash]
      rfl
    · rw [beq_iff_eq.mp ((Bool.and_eq_true _ _).mp backslash).1]
      rfl
  have all : ∀ c ∈ name ++ ['/'], (!isInner c) = true := by
    intro c hc
    rcases List.mem_append.mp hc with hc | hc
    · simp [isInner_eq_false (h.counts c hc)]
    · rw [List.mem_singleton.mp hc]
      rfl
  have tail : Text.dropEndWhile isOuter (name ++ ['/']) = name ++ ['/'] :=
    Text.dropEndWhile_append_cons (p := isOuter) rfl name []
  rw [clean_append_cons counts, tail, List.filter_eq_self.mpr all]

/-- What is left behind the scheme is the end of a text. -/
theorem cutScheme_suffix (cs : List Char) : (cutScheme cs).2 <:+ cs := by
  have whole := Text.append_cut ':' cs
  unfold cutScheme
  split
  · next c front rest hcut =>
    split
    · rw [hcut] at whole
      exact ⟨c :: front ++ [':'], by rw [← whole]; simp⟩
    · exact List.suffix_rfl
  · exact List.suffix_rfl

/-- A path that is read from the end of a text with a name behind its last separator ends in one
slash. -/
theorem endsInOneSlash_pathAfterAuthority (h : IsName name)
    (separator : SchemeKind.special.isSeparator sep = true)
    (ends : cs <:+ before ++ sep :: (name ++ ['/']))
    (starts : ∃ c rest, cs = c :: rest ∧ SchemeKind.special.isSeparator c = true) :
    EndsInOneSlash (pathAfterAuthority .special cs).toString.toList := by
  rcases h.suffix ends starts with rfl | ⟨front, hcs⟩
  · exact ⟨[], rfl, by simp⟩
  · obtain ⟨c, rest, rfl, first⟩ := starts
    -- the separator at the beginning leaves an empty segment, which the path does not have
    have parts : [] :: splitSegments .special rest = splitSegments .special front ++ [name, []] := by
      rw [← h.splitSegments separator, ← hcs, splitSegments, splitSegments, List.map_cons,
        if_pos first, Text.split, if_pos rfl]
    obtain ⟨segments, hsegments⟩ : ∃ segments,
        splitSegments .special rest = segments ++ [name, []] := by
      cases hfront : splitSegments .special front with
      | nil => exact absurd hfront (Text.split_ne_nil _ _)
      | cons segment segments =>
        rw [hfront] at parts
        exact ⟨segments, (List.cons.inj parts).2⟩
    obtain ⟨reached, hreached⟩ := h.walk [] segments
    have path : pathAfterAuthority .special (c :: rest) =
        .segments (reached ++ [String.ofList (Part.segment.escape name), ""]) := by
      rw [← hreached, ← hsegments, pathAfterAuthority, if_pos first]
      rfl
    refine ⟨(reached.flatMap fun part => '/' :: part.toList) ++ '/' :: Part.segment.escape name,
      ?_, ?_⟩
    · simp [path]
    · intro last
      exact h.escape_ne_nil
        ((Text.getLast?_eq_slash_iff (slash_not_mem_escape h.slash_not_mem)).mp last)

/-- The path of a special URL ends in one slash if its text ends in a name and a slash. -/
theorem endsInOneSlash_of_resolve {r : Reference} {url : Url} (h : IsName name)
    (separator : SchemeKind.special.isSeparator sep = true)
    (ends : r.body <:+ before ++ sep :: (name ++ ['/'])) (slash : r.body.getLast? = some '/')
    (read : r.resolve none = .ok url) (special : SchemeKind.of url.scheme = .special) :
    EndsInOneSlash url.path.toString.toList := by
  let isSlash := fun c : Char => c == '/' || c == '\\'
  have inner : fromSeparator (r.body.dropWhile isSlash) <:+ before ++ sep :: (name ++ ['/']) :=
    ((List.dropWhile_suffix _).trans (List.dropWhile_suffix _)).trans ends
  -- an authority was read, so something is left behind it
  have left : fromSeparator (r.body.dropWhile isSlash) ≠ [] := by
    obtain ⟨authority, rest, hread, -⟩ := withAuthority_ok (resolve_special read special).2
    have last : rest.getLast? = some '/' := readAuthority_rest special
      (fun ne => getLast?_of_append ne (by rwa [List.takeWhile_append_dropWhile])) hread
    obtain ⟨rfl, -⟩ := readAuthority_congr (s := r) special rfl hread
    intro empty
    rw [empty] at last
    cases last
  rw [path_of_resolve read special]
  apply endsInOneSlash_pathAfterAuthority h separator inner
  cases hrest : fromSeparator (r.body.dropWhile isSlash) with
  | nil => exact absurd hrest left
  | cons c rest =>
    have first := List.head?_dropWhile_not (fun c => !SchemeKind.special.isSeparator c)
      (r.body.dropWhile isSlash)
    unfold fromSeparator at hrest
    rw [hrest] at first
    exact ⟨c, rest, rfl, by simpa using first⟩

end Reference

/-- The text ends in a separator and a name, but for the slashes behind it. -/
def EndsInName (cs : List Char) : Prop :=
  ∃ front sep name n, cs = front ++ sep :: name ++ List.replicate n '/' ∧
    SchemeKind.special.isSeparator sep = true ∧ IsName name

/-- **A text that ends in a name has a path that ends in one slash**, once it has one slash at its end
instead of any number, and no mark of a query or a fragment. -/
theorem endsInOneSlash_of_parse {cs : List Char} {url : Url} (h : EndsInName cs)
    (plain : cs.any Reference.isMark = false)
    (read : parse (String.ofList (trimSlashes cs ++ ['/'])) = .ok url)
    (special : SchemeKind.of url.scheme = .special) :
    EndsInOneSlash url.path.toString.toList := by
  obtain ⟨front, sep, name, n, rfl, separator, hname⟩ := h
  have trimmed : trimSlashes (front ++ sep :: name ++ List.replicate n '/') = front ++ sep :: name := by
    rw [Text.trimSlashes_append_replicate, Text.trimSlashes_eq_self]
    intro last
    rw [List.append_cons] at last
    exact hname.slash_not_mem (List.mem_of_getLast? (getLast?_of_append hname.ne last))
  have unmarked : ∀ c ∈ front ++ sep :: name ++ ['/'], Reference.isMark c = false := by
    intro c hc
    rcases List.mem_append.mp hc with hc | hc
    · exact Bool.eq_false_iff.mpr (List.any_eq_false.mp plain c (List.mem_append_left _ hc))
    · rw [List.mem_singleton.mp hc]
      rfl
  have body : (Reference.ofString (String.ofList (front ++ sep :: name ++ ['/']))).body =
      (Reference.cutScheme (((front.dropWhile Reference.isOuter).filter fun c =>
        !Reference.isInner c) ++ sep :: (name ++ ['/']))).2 := by
    rw [Reference.body_ofString, String.toList_ofList, Reference.beforeMark_eq_self fun c hc =>
      unmarked c (Reference.mem_of_mem_clean hc), List.append_assoc, List.cons_append,
      Reference.clean_name hname separator]
  rw [trimmed] at read
  apply Reference.endsInOneSlash_of_resolve hname separator _ _ read special
  · exact (front.dropWhile Reference.isOuter).filter fun c => !Reference.isInner c
  · rw [body]
    exact Reference.cutScheme_suffix _
  · rw [body]
    apply Reference.getLast?_cutScheme
    rw [← List.cons_append, ← List.append_assoc]
    exact List.getLast?_concat

/-- Slashes at the end of a text have no part in the path behind which it has a query or a
fragment. -/
theorem path_eq_of_isMark {text : String} {own url : Url}
    (marked : text.toList.any Reference.isMark = true) (parsed : parse text = .ok own)
    (read : parse (String.ofList (trimSlashes text.toList ++ ['/'])) = .ok url)
    (special : SchemeKind.of url.scheme = .special) (same : own.scheme = url.scheme) :
    own.path = url.path := by
  have body : (Reference.ofString text).body =
      (Reference.ofString (String.ofList (trimSlashes text.toList ++ ['/']))).body := by
    rw [Reference.body_ofString, Reference.body_ofString, String.toList_ofList,
      Reference.beforeMark_clean_of_isMark marked]
  rw [Reference.path_of_resolve read special, ← body]
  exact Reference.path_of_resolve parsed (same ▸ special)

end AnalysisSettings.Url

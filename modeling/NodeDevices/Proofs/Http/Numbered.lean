import NodeDevices.Proofs.Http.Url
import NodeDevices.Proofs.Text.Decimal
import NodeDevices.Proofs.Text.Template

/-! Addresses with a number in them. Nothing that is done to an address changes the digits of a
number in it, so that two numbers at the same places make two addresses. Only a step back takes a
place away, or a step that stays and is spelled with the number: the number is two then.
-/

namespace NodeDevices.Http

open Text

/-- The characters of numbers. -/
def numeralChars : List Char :=
  "-0123456789".toList

/-- The value is written with digits and minus signs alone. -/
structure IsNumeral (value : List Char) : Prop where
  filled : value ≠ []
  plain : ∀ c ∈ value, c ∈ numeralChars

theorem mem_digits_of_isDigit {c : Char} (digit : c.isDigit = true)
    : c ∈ "0123456789".toList := by
  have code : 48 ≤ c.toNat ∧ c.toNat ≤ 57 := by
    simpa [Char.isDigit, Char.le_def, UInt32.le_iff_toNat_le] using digit
  have known : ∀ n < 10, Char.ofNat (48 + n) ∈ "0123456789".toList := by decide
  have shown : Char.ofNat (48 + (c.toNat - 48)) = c := by
    rw [Nat.add_sub_cancel' code.1, Char.ofNat_toNat]
  exact shown ▸ known (c.toNat - 48) (by omega)

theorem isNumeral_signed (n : Int) : IsNumeral (Decimal.signed n) where
  filled := Decimal.signed_ne_nil n
  plain := by
    intro c member
    rcases Decimal.mem_signed member with rfl | digit
    · exact List.mem_cons_self
    · exact List.mem_cons_of_mem _ (mem_digits_of_isDigit digit)

namespace IsNumeral

variable {value : List Char}

/-- What holds of the signs and the digits holds of all characters of a number. -/
theorem forall_mem {P : Char → Prop} [DecidablePred P] (numeral : IsNumeral value)
    (all : (numeralChars.all fun c => decide (P c)) = true)
    : ∀ c ∈ value, P c :=
  fun c member => of_decide_eq_true (List.all_eq_true.mp all c (numeral.plain c member))

/-- A number is in lower case. -/
theorem map_toLower (numeral : IsNumeral value) : value.map Char.toLower = value :=
  (List.map_congr_left (numeral.forall_mem (by decide))).trans (List.map_id value)

end IsNumeral

-----------------------------------------------------------------------------------------
-- Escapes
-----------------------------------------------------------------------------------------

namespace Percent

variable {escaped value other : List Char} {template : Template}

/-- The template of the escaped text. -/
def encodeAround (escaped : List Char) (template : Template) : Template :=
  template.flatMap fun place => place.elim [none] fun c => (encode escaped [c]).map some

theorem encode_append (escaped first second : List Char)
    : encode escaped (first ++ second) = encode escaped first ++ encode escaped second :=
  List.flatMap_append

theorem encode_eq_self (plain : ∀ c ∈ value, (isForeign c || escaped.contains c) = false)
    : encode escaped value = value := by
  induction value with
  | nil => rfl
  | cons c value ih =>
      obtain ⟨own, others⟩ := List.forall_mem_cons.mp plain
      have stays := ih others
      unfold encode at stays ⊢
      rw [List.flatMap_cons, stays, own]
      rfl

theorem encode_fill (plain : ∀ c ∈ value, (isForeign c || escaped.contains c) = false)
    (template : Template)
    : encode escaped (fill value template) = fill value (encodeAround escaped template) := by
  induction template with
  | nil => rfl
  | cons place template ih =>
      rw [encodeAround, List.flatMap_cons, ← encodeAround, fill_append, ← ih]
      cases place with
      | none => rw [fill_place, encode_append, encode_eq_self plain]; simp
      | some c =>
          rw [fill_char, ← List.singleton_append, encode_append, Option.elim, fill_map_some]

theorem place_mem_encodeAround (placed : none ∈ template)
    : none ∈ encodeAround escaped template :=
  List.mem_flatMap.mpr ⟨none, placed, List.mem_singleton_self none⟩

/-- A value without escapes is told by the escaped text. -/
theorem eq_of_encode_fill (plain : ∀ c ∈ value, (isForeign c || escaped.contains c) = false)
    (plain' : ∀ c ∈ other, (isForeign c || escaped.contains c) = false) (placed : none ∈ template)
    (same : encode escaped (fill value template) = encode escaped (fill other template))
    : value = other := by
  rw [encode_fill plain, encode_fill plain'] at same
  exact fill_injective (place_mem_encodeAround placed) same

end Percent

namespace Url

variable {first second value : List Char} {parts : List Template} {template : Template}

-----------------------------------------------------------------------------------------
-- Numbers in segments
-----------------------------------------------------------------------------------------

/-- Paths escape no character of a number. -/
theorem plain_path (numeral : IsNumeral value)
    : ∀ c ∈ value, (Percent.isForeign c || pathEscapes.contains c) = false :=
  numeral.forall_mem (by decide)

/-- Queries escape no character of a number. -/
theorem plain_query (numeral : IsNumeral value)
    : ∀ c ∈ value, (Percent.isForeign c || queryEscapes.contains c) = false :=
  numeral.forall_mem (by decide)

/-- A number in a segment is part of the escaped segment. -/
theorem infix_encode_fill (numeral : IsNumeral value) (placed : none ∈ template)
    : value <:+: Percent.encode pathEscapes (fill value template) := by
  rw [Percent.encode_fill (plain_path numeral)]
  exact infix_fill (Percent.place_mem_encodeAround placed)

/-- A segment with a number in it is a step that stays only if the number is two. -/
theorem eq_two_of_isStay (numeral : IsNumeral value) (placed : none ∈ template)
    (stays : isStay (fill value template) = true)
    : value = ['2'] := by
  have within := (infix_encode_fill numeral placed).map Char.toLower
  rw [numeral.map_toLower] at within
  have word : value <:+: ".".toList ∨ value <:+: "%2e".toList := by
    simp only [isStay, isWordOf, stayWords, List.contains_cons, List.contains_nil, Bool.or_false,
      Bool.or_eq_true, beq_iff_eq] at stays
    rw [← String.toList_ofList (l := (Percent.encode _ _).map _)] at within
    rcases stays with dot | escape
    · exact Or.inl (dot ▸ within)
    · exact Or.inr (escape ▸ within)
  -- the only character of a number in either word
  have own : value.Sublist ['2'] := by
    have kept : value.filter (numeralChars.contains ·) = value := by
      apply List.filter_eq_self.mpr
      exact numeral.forall_mem (by decide)
    rw [← kept]
    rcases word with dot | escape
    · exact (dot.sublist.filter _).trans (List.nil_sublist _)
    · exact escape.sublist.filter _
  rcases List.sublist_singleton.mp own with empty | two
  · exact absurd empty numeral.filled
  · exact two

/-- A number alone is no step back: each word for one has a character that no number has. -/
theorem isBack_of_isNumeral (numeral : IsNumeral value) : isBack value = false := by
  rw [Bool.eq_false_iff]
  intro back
  rw [isBack, isWordOf, Percent.encode_eq_self (plain_path numeral), numeral.map_toLower,
    List.contains_iff_mem] at back
  have foreign : (backWords.all fun word => word.toList.any (!numeralChars.contains ·)) = true := by
    decide
  obtain ⟨c, member, other⟩ := List.any_eq_true.mp (List.all_eq_true.mp foreign _ back)
  rw [String.toList_ofList] at member
  simp [numeral.plain c member] at other

-----------------------------------------------------------------------------------------
-- Numbers in paths
-----------------------------------------------------------------------------------------

/-- No segment that has the number in it is a step that stays. -/
def Solid (value : List Char) (parts : List Template) : Prop :=
  ∀ part ∈ parts, none ∈ part → isStay (fill value part) = false

/-- At most as much is kept with one number as with another that keeps all of its segments. -/
theorem length_kept_le (first : List Char) (solid : Solid second parts)
    : (kept (parts.map (fill first))).length ≤ (kept (parts.map (fill second))).length := by
  induction parts with
  | nil => exact Nat.le_refl _
  | cons part parts ih =>
      obtain ⟨own, others⟩ := List.forall_mem_cons.mp solid
      have later := ih others
      simp only [List.map_cons, kept, List.length_append, List.map_eq_nil_iff]
      by_cases placed : none ∈ part
      · rw [own placed]
        have single
            : (if isStay (fill first part) then if parts = [] then [[]] else []
                else [Percent.encode pathEscapes (fill first part)]).length ≤ 1 := by
          split
          · split <;> simp
          · simp
        exact Nat.add_le_add single later
      · rw [fill_eq_of_notMem placed first second]
        exact Nat.add_le_add_left later _

/-- What is kept tells the number that it was kept with, if the other number keeps all of its
segments.
-/
theorem eq_of_kept_of_solid (numeral : IsNumeral first) (numeral' : IsNumeral second)
    (solid : Solid second parts) (placed : ∃ part ∈ parts, none ∈ part)
    (same : kept (parts.map (fill first)) = kept (parts.map (fill second)))
    : first = second := by
  induction parts with
  | nil => simp at placed
  | cons part parts ih =>
      obtain ⟨own, others⟩ := List.forall_mem_cons.mp solid
      simp only [List.map_cons, kept, List.map_eq_nil_iff] at same
      by_cases here : none ∈ part
      · rw [own here] at same
        by_cases stays : isStay (fill first part) = true
        · -- the first path is shorter than the second, or ends in a slash and not in a number
          exfalso
          rw [if_pos stays] at same
          by_cases alone : parts = []
          · rw [if_pos alone] at same
            have empty : [] = Percent.encode pathEscapes (fill second part) :=
              (List.cons.inj same).1
            have within := infix_encode_fill numeral' here
            rw [← empty] at within
            exact numeral'.filled (List.infix_nil.mp within)
          · rw [if_neg alone] at same
            have lengths := congrArg List.length same
            have shorter := length_kept_le first others
            simp at lengths
            omega
        · rw [if_neg stays] at same
          exact Percent.eq_of_encode_fill (plain_path numeral) (plain_path numeral') here
            (List.cons.inj same).1
      · have later : ∃ part ∈ parts, none ∈ part := by simpa [here] using placed
        rw [fill_eq_of_notMem here first second] at same
        exact ih others later (List.append_cancel_left same)

/-- Two numbers of which the same is kept are one. At most one of them is two, so that the other
keeps all of its segments.
-/
theorem eq_of_kept (numeral : IsNumeral first) (numeral' : IsNumeral second)
    (placed : ∃ part ∈ parts, none ∈ part)
    (same : kept (parts.map (fill first)) = kept (parts.map (fill second)))
    : first = second := by
  have solid_of_ne {value : List Char} (numeral : IsNumeral value) (other : value ≠ ['2'])
      : Solid value parts := by
    intro part _ here
    rw [Bool.eq_false_iff]
    exact fun stays => other (eq_two_of_isStay numeral here stays)
  by_cases two : second = ['2']
  · by_cases both : first = ['2']
    · rw [both, two]
    · exact (eq_of_kept_of_solid numeral' numeral (solid_of_ne numeral both) placed same.symm).symm
  · exact eq_of_kept_of_solid numeral numeral' (solid_of_ne numeral' two) placed same

-----------------------------------------------------------------------------------------
-- Numbers in addresses
-----------------------------------------------------------------------------------------

/-- What counts of a template at the end of an address. -/
def countedAround (template : Template) : Template :=
  (template.rdropWhile (·.any isEdge)).filter (·.all (!isIdle ·))

theorem counted_fill (numeral : IsNumeral value) (template : Template)
    : counted (fill value template) = fill value (countedAround template) := by
  rw [counted, dropEndWhile_fill numeral.filled (numeral.forall_mem (by decide)),
    filter_fill (numeral.forall_mem (by decide))]
  rfl

/-- There is a place in front of any fragment. -/
def IsSent (template : Template) : Prop :=
  ∃ before after, template = before ++ none :: after ∧ some '#' ∉ before

theorem exists_rdropWhile {class? : Option Char → Bool} (outside : class? none = false)
    (before after : Template)
    : ∃ rest, (before ++ none :: after).rdropWhile class? = before ++ none :: rest := by
  induction after using List.reverseRecOn with
  | nil => exact ⟨[], List.rdropWhile_concat_neg _ _ _ (by simp [outside])⟩
  | append_singleton after place ih =>
      rw [← List.cons_append, ← List.append_assoc, List.rdropWhile_concat]
      split
      · exact ih
      · exact ⟨after ++ [place], by simp⟩

theorem IsSent.tail {c : Char} (sent : IsSent (some c :: template))
    : c ≠ '#' ∧ IsSent template := by
  obtain ⟨before, after, shown, whole⟩ := sent
  cases before with
  | nil => cases shown
  | cons place before =>
      obtain ⟨rfl, rfl⟩ := List.cons.inj shown
      obtain ⟨own, later⟩ := not_or.mp (mt List.mem_cons.mpr whole)
      exact ⟨fun same => own (same ▸ rfl), before, after, rfl, later⟩

theorem IsSent.cons {c : Char} (sent : IsSent template) (plain : c ≠ '#')
    : IsSent (some c :: template) := by
  obtain ⟨before, after, rfl, whole⟩ := sent
  refine ⟨some c :: before, after, rfl, ?_⟩
  simpa using ⟨Ne.symm plain, whole⟩

theorem IsSent.countedAround (sent : IsSent template) : IsSent (countedAround template) := by
  obtain ⟨before, after, rfl, whole⟩ := sent
  have edge : Option.any isEdge none = false := rfl
  obtain ⟨rest, dropped⟩ := exists_rdropWhile edge before after
  refine ⟨before.filter (·.all (!isIdle ·)), rest.filter (·.all (!isIdle ·)), ?_, ?_⟩
  · rw [Url.countedAround, dropped, List.filter_append, List.filter_cons_of_pos rfl]
  · exact fun marked => whole (List.mem_of_mem_filter marked)

theorem isSent_iff_place_mem
    : IsSent template ↔ none ∈ template.takeWhile (·.all (· ≠ '#')) := by
  constructor
  · rintro ⟨before, after, rfl, whole⟩
    have inside : ∀ place ∈ before, place.all (· ≠ '#') = true := by
      intro place member
      cases place with
      | none => rfl
      | some c => exact decide_eq_true fun same => whole (same ▸ member)
    rw [List.takeWhile_append_of_pos inside]
    exact List.mem_append_right _ List.mem_cons_self
  · intro placed
    obtain ⟨before, after, shown⟩ := List.append_of_mem placed
    refine ⟨before, after ++ template.dropWhile (·.all (· ≠ '#')), ?_, ?_⟩
    · rw [← List.cons_append, ← List.append_assoc, ← shown, List.takeWhile_append_dropWhile]
    · intro marked
      have inside := List.mem_takeWhile_imp (shown ▸ List.mem_append_left _ marked)
      exact absurd inside (by decide)

/-- A place in front of the fragment is in the path or in the query. -/
theorem IsSent.path_or_query (sent : IsSent template)
    : none ∈ template.takeWhile (·.all fun c => c ≠ '?' ∧ c ≠ '#')
      ∨ ∃ asked,
          template.dropWhile (·.all fun c => c ≠ '?' ∧ c ≠ '#') = some '?' :: asked
          ∧ IsSent asked := by
  obtain ⟨before, after, rfl, whole⟩ := sent
  induction before with
  | nil => exact Or.inl List.mem_cons_self
  | cons place before ih =>
      obtain ⟨own, later⟩ := not_or.mp (mt List.mem_cons.mpr whole)
      cases place with
      | none => exact Or.inl List.mem_cons_self
      | some c =>
          by_cases asking : c = '?'
          · subst asking
            exact Or.inr ⟨before ++ none :: after, rfl, before, after, rfl, later⟩
          · have plain : c ≠ '#' := fun same => own (same ▸ rfl)
            have onPath : decide (c ≠ '?' ∧ c ≠ '#') = true := decide_eq_true ⟨asking, plain⟩
            have passed : (some c).all (fun c => decide (c ≠ '?' ∧ c ≠ '#')) = true := onPath
            rw [List.cons_append, List.takeWhile_cons_of_pos passed,
              List.dropWhile_cons_of_pos passed]
            exact (ih later).imp_left (List.mem_cons_of_mem _)

theorem of_place_mem_takeWhile {class? : Char → Bool} {c : Char}
    (placed : none ∈ (some c :: template).takeWhile (·.all class?))
    : class? c = true ∧ none ∈ template.takeWhile (·.all class?) := by
  rw [List.takeWhile_cons] at placed
  split at placed
  · next inside => exact ⟨inside, List.mem_of_ne_of_mem (by simp) placed⟩
  · cases placed

/-- Two numbers in one query are told by it. -/
theorem eq_of_queries (numeral : IsNumeral first) (numeral' : IsNumeral second)
    (sent : IsSent template) (asked : List Char)
    (same : Percent.encode queryEscapes (asked ++ (fill first template).takeWhile (· ≠ '#'))
      = Percent.encode queryEscapes (asked ++ (fill second template).takeWhile (· ≠ '#')))
    : first = second := by
  rw [Percent.encode_append, Percent.encode_append, List.append_cancel_left_eq,
    takeWhile_fill (numeral.forall_mem (by decide)),
    takeWhile_fill (numeral'.forall_mem (by decide))] at same
  exact Percent.eq_of_encode_fill (plain_query numeral) (plain_query numeral')
    (isSent_iff_place_mem.mp sent) same

/-- The template of the path that a filled template starts with. -/
def pathAround (template : Template) : Template :=
  (template.takeWhile (·.all fun c => c ≠ '?' ∧ c ≠ '#')).map
    (·.map fun c => if c = '\\' then '/' else c)

theorem pathText_fill (numeral : IsNumeral value) (template : Template)
    : pathText (fill value template) = fill value (pathAround template) := by
  rw [pathText, pathAround, takeWhile_fill (numeral.forall_mem (by decide)),
    map_fill _ (numeral.forall_mem (by decide))]

/-- The query of a filled template. -/
theorem queryText_fill {asked : Template} (numeral : IsNumeral value)
    (shown : template.dropWhile (·.all fun c => c ≠ '?' ∧ c ≠ '#') = some '?' :: asked)
    : queryText (fill value template) = some ((fill value asked).takeWhile (· ≠ '#')) := by
  apply queryText_of_mark
  rw [dropWhile_fill (numeral.forall_mem (by decide)), shown, fill_char]

/-- Two numbers in one path that takes no step back are told by where it leads. -/
theorem eq_of_paths {earlier : List (List Char)} (numeral : IsNumeral first)
    (numeral' : IsNumeral second)
    (placed : none ∈ template.takeWhile (·.all fun c => c ≠ '?' ∧ c ≠ '#'))
    (forward : ∀ segment ∈ splitOn '/' (pathText (fill first template)), isBack segment = false)
    (forward' : ∀ segment ∈ splitOn '/' (pathText (fill second template)), isBack segment = false)
    (same : follow [] (earlier ++ splitOn '/' (pathText (fill first template)))
      = follow [] (earlier ++ splitOn '/' (pathText (fill second template))))
    : first = second := by
  obtain ⟨reached, led⟩ := exists_follow_append [] earlier
  rw [led _ (splitOn_ne_nil _ _), led _ (splitOn_ne_nil _ _), follow_eq_append_kept forward,
    follow_eq_append_kept forward', List.append_cancel_left_eq, pathText_fill numeral,
    pathText_fill numeral'] at same
  obtain ⟨parts, -, split, within⟩ := exists_splitOn_fill '/' (pathAround template)
  have unmarked {value : List Char} (numeral : IsNumeral value) : '/' ∉ value :=
    fun member => absurd (numeral.plain _ member) (by decide)
  rw [split first (unmarked numeral), split second (unmarked numeral')] at same
  exact eq_of_kept numeral numeral' (within (List.mem_map.mpr ⟨none, placed, rfl⟩)) same

/-- The path of a text that starts with a slash takes no step back behind it. -/
theorem forward_of_stepsBack {c : Char} {text : List Char} (slash : isSlash c = true)
    (forward : stepsBack (c :: text) = false)
    : ∀ segment ∈ splitOn '/' (pathText (counted text)), isBack segment = false := by
  have ends : endsServer c = true := by simp [endsServer, slash]
  intro segment member
  rw [stepsBack, counted_cons ends, pathText_cons slash, splitOn, if_pos rfl] at forward
  rw [List.any_eq_false] at forward
  exact Bool.eq_false_iff.mpr (forward segment (List.mem_cons_of_mem _ member))

/-- Two numbers at the same places of an address, behind a part that is an address by itself, are
told by what a request for the address asks for. It is enough that one place is not in the
fragment, and that neither path takes a step back.
-/
theorem eq_of_resource {start : List Char} {c : Char} {url other : Url}
    (numeral : IsNumeral first) (numeral' : IsNumeral second)
    (valid : (parse? (String.ofList start)).isSome) (whole : '#' ∉ start)
    (ends : endsServer c = true) (sent : IsSent (some c :: template))
    (forward : stepsBack (c :: fill first template) = false)
    (forward' : stepsBack (c :: fill second template) = false)
    (read : parse? (String.ofList (start ++ c :: fill first template)) = some url)
    (read' : parse? (String.ofList (start ++ c :: fill second template)) = some other)
    (same : url.resource = other.resource)
    : first = second := by
  obtain ⟨behind, starts, within, parts⟩ := exists_behind valid
  have unbroken : '#' ∉ behind := fun member => whole (within member)
  have counts {value : List Char} (numeral : IsNumeral value)
      : counted (c :: fill value template) = fill value (some c :: countedAround template) := by
    rw [counted_cons ends, counted_fill numeral, fill_char]
  have within' : IsSent (some c :: countedAround template) :=
    sent.tail.2.countedAround.cons sent.tail.1
  obtain ⟨path, query⟩ := parts ends read
  obtain ⟨path', query'⟩ := parts ends read'
  have paths : url.path = other.path := by
    change url.resource.path = other.resource.path
    rw [same]
  have queries : url.query = other.query := by
    change url.resource.query = other.resource.query
    rw [same]
  rw [path, path', counts numeral, counts numeral'] at paths
  rw [query, query', counts numeral, counts numeral'] at queries
  by_cases asking : '?' ∈ behind
  case pos =>
    obtain ⟨asked, texts⟩ := exists_queryText_append asking unbroken
    rw [texts, texts] at queries
    exact eq_of_queries numeral numeral' within' asked (Option.some.inj queries)
  case neg =>
    obtain ⟨joined, single⟩ := texts_append asking unbroken (fill first _)
    obtain ⟨joined', single'⟩ := texts_append asking unbroken (fill second _)
    rw [joined, joined'] at paths
    rw [single, single'] at queries
    rcases within'.path_or_query with placed | ⟨asked, shown, within'⟩
    · obtain ⟨onPath, inner⟩ := of_place_mem_takeWhile placed
      obtain ⟨unasked, plain⟩ := of_decide_eq_true onPath
      have slash : isSlash c = true := by simpa [endsServer, unasked, plain] using ends
      obtain ⟨earlier, led⟩ := exists_segments_append (head?_pathText starts asking unbroken)
      rw [fill_char, fill_char, pathText_cons slash, pathText_cons slash, led, led] at paths
      refine eq_of_paths numeral numeral' inner ?_ ?_ paths
      · rw [← counted_fill numeral]
        exact forward_of_stepsBack slash forward
      · rw [← counted_fill numeral']
        exact forward_of_stepsBack slash forward'
    · rw [queryText_fill numeral shown, queryText_fill numeral' shown] at queries
      exact eq_of_queries numeral numeral' within' [] (Option.some.inj queries)

end Url

end NodeDevices.Http

import NodeDevices.Path

/-! What a path ends in. A path within a directory ends in what its name ends in, whatever the
directory is and wherever the name leads; two paths that end in different names are apart. The
directory of a file has the steps of the file's path, less the name that it ends in.
-/

namespace NodeDevices

namespace Text

variable {mark : Char}

/-- The parts before a mark are followed by the parts after it. -/
theorem splitOn_append_mark (before after : List Char)
    : splitOn mark (before ++ mark :: after) = splitOn mark before ++ splitOn mark after := by
  induction before with
  | nil => simp [splitOn]
  | cons c rest ih =>
      rw [List.cons_append, splitOn, splitOn, ih]
      split
      · rfl
      · cases parts : splitOn mark rest with
        | nil => exact absurd parts (splitOn_ne_nil mark rest)
        | cons part later => rfl

/-- A text without marks is one part. -/
theorem splitOn_of_notMem {text : List Char} (unmarked : mark ∉ text)
    : splitOn mark text = [text] := by
  induction text with
  | nil => rfl
  | cons c rest ih =>
      obtain ⟨other, later⟩ := not_or.mp (mt List.mem_cons.mpr unmarked)
      rw [splitOn, if_neg (Ne.symm other), ih later]

/-- A text without marks lengthens the last part of the text that it comes after. -/
theorem exists_splitOn_append (mark : Char) (text : List Char)
    : ∃ parts last,
        ∀ after, mark ∉ after → splitOn mark (text ++ after) = parts ++ [last ++ after] := by
  induction text with
  | nil => exact ⟨[], [], fun _ => splitOn_of_notMem⟩
  | cons c rest ih =>
      obtain ⟨parts, last, lengthened⟩ := ih
      by_cases marked : c = mark
      · refine ⟨[] :: parts, last, fun after unmarked => ?_⟩
        rw [List.cons_append, splitOn, if_pos marked, lengthened after unmarked, List.cons_append]
      · cases parts with
        | nil =>
            refine ⟨[], c :: last, fun after unmarked => ?_⟩
            rw [List.cons_append, splitOn, if_neg marked, lengthened after unmarked]
            rfl
        | cons part later =>
            refine ⟨(c :: part) :: later, last, fun after unmarked => ?_⟩
            rw [List.cons_append, splitOn, if_neg marked, lengthened after unmarked]
            rfl

theorem notMem_of_mem_splitOn {text part : List Char} (member : part ∈ splitOn mark text)
    : mark ∉ part := by
  induction text generalizing part with
  | nil =>
      rw [List.mem_singleton.mp member]
      exact List.not_mem_nil
  | cons c rest ih =>
      rw [splitOn] at member
      split at member
      · rcases List.mem_cons.mp member with rfl | later
        · exact List.not_mem_nil
        · exact ih later
      · next other =>
          cases parts : splitOn mark rest with
          | nil => exact absurd parts (splitOn_ne_nil mark rest)
          | cons first more =>
              rw [parts] at member ih
              rcases List.mem_cons.mp member with rfl | later
              · exact List.not_mem_cons_of_ne_of_not_mem (Ne.symm other)
                  (ih List.mem_cons_self)
              · exact ih (List.mem_cons_of_mem _ later)

/-- Parts without marks are the parts of what they are joined to. -/
theorem splitOn_joinWith {parts : List (List Char)} (some_part : parts ≠ [])
    (plain : ∀ part ∈ parts, mark ∉ part)
    : splitOn mark (joinWith mark parts) = parts := by
  induction parts with
  | nil => exact absurd rfl some_part
  | cons part parts ih =>
      obtain ⟨unmarked, others⟩ := List.forall_mem_cons.mp plain
      cases parts with
      | nil => exact splitOn_of_notMem unmarked
      | cons next more =>
          rw [joinWith, splitOn_append_mark, splitOn_of_notMem unmarked,
            ih (List.cons_ne_nil next more) others, List.singleton_append]
          exact List.cons_ne_nil next more

end Text

namespace Path

/-- The paths end in different names, so that they are not the same and do not become the same
by what links lead to their directories.
-/
def Apart (first second : String) : Prop :=
  ∃ name other,
    (components first).getLast? = some (.name name)
    ∧ (components second).getLast? = some (.name other)
    ∧ name ≠ other

/-- Paths that are apart are two, however they are spelled. -/
theorem Apart.same_eq_false {first second : String} (apart : Apart first second)
    : same first second = false := by
  obtain ⟨name, other, ends, endsOther, different⟩ := apart
  refine decide_eq_false fun equal => different ?_
  rw [equal, endsOther] at ends
  cases ends
  rfl

/-- A path within a directory has, after some segments of the directory, those of its name. -/
theorem exists_segments_join (directory name : String)
    : ∃ before, segments (join directory name) = before ++ segments name := by
  unfold join
  split
  · exact ⟨[], rfl⟩
  · split
    · next plain =>
        rcases plain with rfl | slash
        · exact ⟨[], by rw [String.empty_append, List.nil_append]⟩
        · -- the slash that the directory ends in has an empty segment behind it
          obtain ⟨start, ends⟩ := List.getLast?_eq_some_iff.mp slash
          refine ⟨Text.splitOn '/' start, ?_⟩
          rw [segments, String.toList_append, ends, List.append_assoc, List.singleton_append,
            Text.splitOn_append_mark]
          rfl
    · refine ⟨segments directory, ?_⟩
      rw [segments, String.toList_append, String.toList_append, List.append_assoc]
      exact Text.splitOn_append_mark _ _

/-- A path whose last segment stands for a component ends in that component. -/
theorem getLast?_components {path : String} {before : List (List Char)} {segment : List Char}
    {component : Component} (ends : segments path = before ++ [segment])
    (stands : Component.ofSegment? segment = some component)
    : (components path).getLast? = some component := by
  simp [components, ends, stands]

/-- What stands after the last slash of a text begins the last name of every path that goes on
from the text without a slash. Three characters are more than dots could be.
-/
theorem exists_getLast?_components_join (directory start : String)
    : ∃ tail : String,
        ∀ ending : String,
          '/' ∉ ending.toList
          → 2 < ending.length
          → (components (join directory (start ++ ending))).getLast?
            = some (.name (tail ++ ending)) := by
  obtain ⟨parts, last, lengthened⟩ := Text.exists_splitOn_append '/' start.toList
  refine ⟨String.ofList last, fun ending plain long => ?_⟩
  obtain ⟨before, within⟩ := exists_segments_join directory (start ++ ending)
  have ends : segments (join directory (start ++ ending))
      = before ++ parts ++ [last ++ ending.toList] := by
    rw [within, segments, String.toList_append, lengthened _ plain, List.append_assoc]
  have longer : 2 < (last ++ ending.toList).length := by
    rw [List.length_append, String.length_toList]
    omega
  have proper (dots : List Char) (short : dots.length ≤ 2) : last ++ ending.toList ≠ dots := by
    rintro rfl
    exact absurd longer (Nat.not_lt.mpr short)
  apply getLast?_components ends
  rw [Component.ofSegment?, if_neg (not_or.mpr ⟨proper [] (by decide), proper ['.'] (by decide)⟩),
    if_neg (proper ['.', '.'] (by decide)), String.ofList_append, String.ofList_toList]

-----------------------------------------------------------------------------------------
-- The directory of a file
-----------------------------------------------------------------------------------------

variable {path folder name : String}

theorem components_of_isAbsolute (rooted : isAbsolute path = true)
    : components path = .root :: (segments path).filterMap Component.ofSegment? := by
  rw [components, if_pos rooted, List.singleton_append]

/-- A path that does not start at the root has no step to it. -/
theorem root_notMem_components (relative : isAbsolute path = false)
    : .root ∉ components path := by
  have noStep : .root ∉ (segments path).filterMap Component.ofSegment? := by
    intro member
    obtain ⟨segment, _, stands⟩ := List.mem_filterMap.mp member
    unfold Component.ofSegment? at stands
    split at stands
    · cases stands
    · split at stands <;> cases stands
  rw [components, if_neg (Bool.eq_false_iff.mp relative)]
  intro member
  rcases List.mem_append.mp member with first | later
  · split at first <;> simp at first
  · exact noStep later

theorem isAbsolute_join (rooted : isAbsolute folder = true) (name : String)
    : isAbsolute (join folder name) = true := by
  have first : folder.toList.head? = some '/' := of_decide_eq_true rooted
  unfold join
  split
  · assumption
  · split
    all_goals simp [isAbsolute, List.head?_append, first]

theorem filterMap_singleton (segment : List Char)
    : [segment].filterMap Component.ofSegment? = (Component.ofSegment? segment).toList := by
  rw [List.filterMap_cons]
  cases Component.ofSegment? segment <;> rfl

/-- A name in a directory adds the step that it stands for. -/
theorem components_join (rooted : isAbsolute folder = true) (plain : '/' ∉ name.toList)
    : components (join folder name)
      = components folder ++ (Component.ofSegment? name.toList).toList := by
  have relative : ¬ isAbsolute name = true := by
    intro absolute
    exact plain (List.mem_of_head? (of_decide_eq_true absolute))
  have single : segments name = [name.toList] := Text.splitOn_of_notMem plain
  rw [components_of_isAbsolute (isAbsolute_join rooted name), components_of_isAbsolute rooted,
    List.cons_append]
  congr 1
  unfold join
  rw [if_neg relative]
  split
  · next ends =>
      rcases ends with rfl | slash
      · cases rooted
      · obtain ⟨start, shown⟩ := List.getLast?_eq_some_iff.mp slash
        have parted : segments (folder ++ name) = Text.splitOn '/' start ++ [name.toList] := by
          rw [segments, String.toList_append, shown, List.append_assoc, List.singleton_append,
            Text.splitOn_append_mark, ← segments, single]
        have own : segments folder = Text.splitOn '/' start ++ [[]] := by
          rw [segments, shown, Text.splitOn_append_mark]
          rfl
        have idle : [[]].filterMap Component.ofSegment? = [] := rfl
        rw [parted, own, List.filterMap_append, List.filterMap_append, filterMap_singleton,
          idle, List.append_nil]
  · have parted : segments (folder ++ "/" ++ name) = segments folder ++ [name.toList] := by
      rw [segments, String.toList_append, String.toList_append, List.append_assoc, ← single]
      exact Text.splitOn_append_mark _ _
    rw [parted, List.filterMap_append, filterMap_singleton]

/-- What is dropped from the end of a path stands for no step, and what stays ends in a segment
that is not empty.
-/
theorem exists_idle (segments : List (List Char))
    : (∃ idle, segments = idle ++ dropIdle segments ∧ idle.filterMap Component.ofSegment? = [])
      ∧ [] ∉ (dropIdle segments).head? := by
  induction segments with
  | nil => exact ⟨⟨[], rfl, rfl⟩, by simp [dropIdle]⟩
  | cons segment earlier ih =>
      obtain ⟨⟨idle, shown, none⟩, ends⟩ := ih
      rw [dropIdle]
      split
      · next stands =>
          have nothing : Component.ofSegment? segment = Option.none :=
            if_pos (stands.imp_right And.left)
          refine ⟨⟨segment :: idle, ?_, ?_⟩, ends⟩
          · rw [List.cons_append, ← shown]
          · rw [List.filterMap_cons_none nothing, none]
      · next stands =>
          refine ⟨⟨[], rfl, rfl⟩, ?_⟩
          rintro ⟨⟩
          exact stands (Or.inl rfl)

theorem directory_of_parent? {parent : String} (known : parent? path = some parent)
    (named : parent ≠ "")
    : directory path = parent := by
  unfold Path.directory
  rw [known]
  split
  · next none => cases none
  · next empty => exact absurd (Option.some.inj empty) named
  · next other same => exact (Option.some.inj same).symm

/-- The name that a path ends in is the last segment that stays, and stands for a step. -/
theorem of_fileName? (named : fileName? path = some name)
    : ∃ earlier,
        dropIdle (segments path).reverse = name.toList :: earlier
        ∧ Component.ofSegment? name.toList = some (.name name) := by
  have ends := (exists_idle (segments path).reverse).2
  unfold fileName? at named
  split at named
  · cases named
  next segment earlier last =>
  split at named
  · cases named
  next proper =>
  obtain rfl := Option.some.inj named
  rw [last] at ends
  have visible : segment ≠ [] := fun empty => ends (congrArg some empty)
  obtain ⟨current, parent⟩ := not_or.mp proper
  rw [String.toList_ofList]
  refine ⟨earlier, last, ?_⟩
  rw [Component.ofSegment?, if_neg (not_or.mpr ⟨visible, current⟩), if_neg parent]

theorem slash_notMem_of_fileName? (named : fileName? path = some name) : '/' ∉ name.toList := by
  obtain ⟨earlier, last, _⟩ := of_fileName? named
  obtain ⟨⟨idle, shown, _⟩, _⟩ := exists_idle (segments path).reverse
  have member : name.toList ∈ (segments path).reverse := by
    rw [shown, last]
    exact List.mem_append_right _ List.mem_cons_self
  exact Text.notMem_of_mem_splitOn (List.mem_reverse.mp member)

/-- A path from the root has nothing before its first slash. -/
theorem head?_segments (rooted : isAbsolute path = true) : (segments path).head? = some [] := by
  obtain ⟨rest, shown⟩ := List.head?_eq_some_iff.mp (of_decide_eq_true rooted)
  rw [segments, shown, Text.splitOn, if_pos rfl]
  rfl

/-- Segments of which the first one is empty, but not all, make a path from the root. -/
theorem isAbsolute_ofSegments {parts : List (List Char)} {visible : List Char}
    (first : parts.head? = some []) (member : visible ∈ parts) (some_char : visible ≠ [])
    : isAbsolute (ofSegments parts) = true := by
  obtain ⟨more, rfl⟩ := List.head?_eq_some_iff.mp first
  rcases List.mem_cons.mp member with empty | later
  · exact absurd empty some_char
  · obtain ⟨next, rest, rfl⟩ := List.exists_cons_of_ne_nil (List.ne_nil_of_mem later)
    simp [isAbsolute, ofSegments, Text.joinWith]

/-- A file's path from the root is that of its directory with one step more. -/
theorem components_directory (rooted : isAbsolute path = true) (named : fileName? path = some name)
    : isAbsolute (directory path) = true
      ∧ components path = components (directory path) ++ [.name name] := by
  obtain ⟨earlier, last, stands⟩ := of_fileName? named
  -- the segments from the end on: idle ones, the name, idle ones again, those of the directory
  obtain ⟨⟨idle, shown, none⟩, _⟩ := exists_idle (segments path).reverse
  obtain ⟨⟨between, shown', none'⟩, ends'⟩ := exists_idle earlier
  rw [last] at shown
  have split : segments path
      = (dropIdle earlier).reverse ++ between.reverse ++ name.toList :: idle.reverse := by
    rw [shown'] at shown
    simpa using congrArg List.reverse shown
  have steps : (segments path).filterMap Component.ofSegment?
      = (dropIdle earlier).reverse.filterMap Component.ofSegment? ++ [.name name] := by
    rw [split]
    simp [List.filterMap_reverse, none, none', stands]
  rw [components_of_isAbsolute rooted, steps]
  cases kept : dropIdle earlier with
  | nil =>
      have parent : parent? path = some "/" := by
        rw [parent?, last]
        simp only [kept, if_pos rooted]
      rw [directory_of_parent? parent (by decide)]
      exact ⟨rfl, rfl⟩
  | cons final others =>
      rw [kept] at split ends'
      have parent : parent? path = some (ofSegments (final :: others).reverse) := by
        rw [parent?, last]
        simp only [kept]
      have plain : ∀ part ∈ (final :: others).reverse, '/' ∉ part := by
        intro part member
        have among : part ∈ segments path := by
          rw [split]
          exact List.mem_append_left _ (List.mem_append_left _ member)
        exact Text.notMem_of_mem_splitOn among
      have parts : segments (ofSegments (final :: others).reverse) = (final :: others).reverse := by
        rw [segments, ofSegments, String.toList_ofList]
        exact Text.splitOn_joinWith (by simp) plain
      have absolute : isAbsolute (ofSegments (final :: others).reverse) = true := by
        -- the path's first segment is empty and the last one that is kept is not
        apply isAbsolute_ofSegments _ (List.mem_reverse.mpr List.mem_cons_self)
        · exact fun empty => ends' (congrArg some empty)
        · have first := head?_segments rooted
          obtain ⟨start, more, shape⟩ :=
            List.exists_cons_of_ne_nil (List.reverse_ne_nil_iff.mpr (List.cons_ne_nil final others))
          rw [split, shape] at first
          rw [shape]
          exact first
      have named : ofSegments (final :: others).reverse ≠ "" := by
        intro empty
        rw [empty] at absolute
        cases absolute
      rw [directory_of_parent? parent named]
      refine ⟨absolute, ?_⟩
      rw [components_of_isAbsolute absolute, parts]
      rfl

end Path

end NodeDevices

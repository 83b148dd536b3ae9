import NodeDevices.Http.Url
import NodeDevices.Proofs.Path
import NodeDevices.Proofs.Text.Blank
import NodeDevices.Proofs.Text.Substring

/-! Addresses by their parts. An address that goes on behind another one names the same server, and
what it goes on with comes to its path, its query and its fragment. A path that takes no step back
keeps all of its segments, except for those that stay.
-/

namespace NodeDevices.Http.Url

open Text

-----------------------------------------------------------------------------------------
-- The parts of an address
-----------------------------------------------------------------------------------------

/-- What a request asks for. The fragment of an address is not sent. -/
def resource (url : Url) : Url :=
  { url with fragment := none }

/-- What counts of a text at the end of an address. -/
def counted (text : List Char) : List Char :=
  (dropEndWhile isEdge text).filter (!isIdle ·)

/-- The text that names the scheme. -/
def schemeText (secure : Bool) : List Char :=
  if secure then "https:".toList else "http:".toList

/-- What names the server in the text behind a scheme. -/
def serverText (text : List Char) : List Char :=
  (text.dropWhile isSlash).takeWhile (!endsServer ·)

/-- What comes behind the server in the text behind a scheme. -/
def behindServer (text : List Char) : List Char :=
  (text.dropWhile isSlash).dropWhile (!endsServer ·)

/-- The path that the text behind a server starts with. -/
def pathText (text : List Char) : List Char :=
  (text.takeWhile fun c => c ≠ '?' ∧ c ≠ '#').map fun c => if c = '\\' then '/' else c

/-- The segments of a path; a slash in front of the first one does not count. -/
def segments (path : List Char) : List (List Char) :=
  splitOn '/' (if path.head? = some '/' then path.drop 1 else path)

/-- The query in the text behind a server. -/
def queryText (text : List Char) : Option (List Char) :=
  match text.dropWhile fun c => c ≠ '?' ∧ c ≠ '#' with
  | '?' :: rest => some (rest.takeWhile (· ≠ '#'))
  | _ => none

theorem queryText_of_mark {text rest : List Char}
    (found : text.dropWhile (fun c => c ≠ '?' ∧ c ≠ '#') = '?' :: rest)
    : queryText text = some (rest.takeWhile (· ≠ '#')) := by
  rw [queryText, found]
  rfl

theorem queryText_of_ne {text : List Char}
    (unasked : ∀ rest, text.dropWhile (fun c => c ≠ '?' ∧ c ≠ '#') ≠ '?' :: rest)
    : queryText text = none := by
  unfold queryText
  split
  · next rest found => exact absurd found (unasked rest)
  · rfl

theorem drop_length_takeWhile (class? : Char → Bool) (text : List Char)
    : text.drop (text.takeWhile class?).length = text.dropWhile class? := by
  induction text with
  | nil => rfl
  | cons c rest ih => cases found : class? c <;> simp [found, ih]

/-- An address is read in its parts. -/
theorem of_ofRest? {secure : Bool} {text : List Char} {url : Url}
    (read : ofRest? secure text = some url)
    : (server? secure (afterLast '@' (serverText text))).isSome
      ∧ url.path = follow [] (segments (pathText (behindServer text)))
      ∧ url.query = (queryText (behindServer text)).map (Percent.encode queryEscapes) := by
  unfold ofRest? at read
  simp only [Option.bind_eq_bind, Option.bind_eq_some_iff, Option.pure_def] at read
  obtain ⟨server, named, read⟩ := read
  cases read
  simp only [List.length_map, drop_length_takeWhile]
  refine ⟨Option.isSome_of_eq_some named, rfl, ?_⟩
  unfold behindServer
  split
  · next rest found => rw [queryText_of_mark found]
  · next unasked => rw [queryText_of_ne unasked]

/-- An address is one of the two schemes, and what is behind it. -/
theorem of_parse? {text : List Char} {url : Url}
    (read : parse? (String.ofList text) = some url)
    : ∃ secure rest,
        counted (text.dropWhile isEdge) = schemeText secure ++ rest
        ∧ ofRest? secure rest = some url := by
  unfold parse? at read
  rw [String.toList_ofList] at read
  dsimp only at read
  split at read
  · next rest plain => exact ⟨false, rest, dropStart?_eq_some_iff.mp plain, read⟩
  · next rest secured _ => exact ⟨true, rest, dropStart?_eq_some_iff.mp secured, read⟩
  · cases read

/-- No server has an empty name. -/
theorem server?_nil (secure : Bool) : server? secure [] = none :=
  rfl

theorem schemeText_append_inj {secure other : Bool} {rest more : List Char}
    (same : schemeText secure ++ rest = schemeText other ++ more)
    : rest = more := by
  cases secure with
  | false =>
      cases other with
      | false => exact List.append_cancel_left same
      | true => simp [schemeText] at same
  | true =>
      cases other with
      | false => simp [schemeText] at same
      | true => exact List.append_cancel_left same

-----------------------------------------------------------------------------------------
-- Addresses that go on
-----------------------------------------------------------------------------------------

theorem isEdge_of_endsServer {c : Char} (ends : endsServer c = true) : isEdge c = false := by
  simp only [endsServer, isSlash, Bool.or_eq_true, decide_eq_true_eq] at ends
  rcases ends with ((rfl | rfl) | rfl) | rfl <;> rfl

theorem isIdle_of_endsServer {c : Char} (ends : endsServer c = true) : isIdle c = false := by
  simp only [endsServer, isSlash, Bool.or_eq_true, decide_eq_true_eq] at ends
  rcases ends with ((rfl | rfl) | rfl) | rfl <;> rfl

theorem counted_cons {c : Char} (ends : endsServer c = true) (text : List Char)
    : counted (c :: text) = c :: counted text := by
  have solid : dropEndWhile isEdge [c] = [c] := by
    apply dropEndWhile_eq_self_iff.mpr
    rintro _ ⟨⟩
    exact isEdge_of_endsServer ends
  have dropped : dropEndWhile isEdge (c :: text) = c :: dropEndWhile isEdge text := by
    rw [← List.singleton_append, dropEndWhile_append]
    split
    · next empty => rw [empty, solid]
    · rfl
  rw [counted, dropped, List.filter_cons_of_pos (by simp [isIdle_of_endsServer ends]), counted]

/-- Edges of a text count within another. -/
theorem counted_append_cons {c : Char} (ends : endsServer c = true) (first text : List Char)
    : counted (first ++ c :: text) = first.filter (!isIdle ·) ++ counted (c :: text) := by
  have solid : dropEndWhile isEdge (c :: text) ≠ [] := by
    intro empty
    have edge := List.rdropWhile_eq_nil_iff.mp empty c List.mem_cons_self
    rw [isEdge_of_endsServer ends] at edge
    cases edge
  rw [counted, dropEndWhile_append, if_neg solid, List.filter_append, counted]

theorem behindServer_append_cons {c : Char} (ends : endsServer c = true) {first : List Char}
    (named : first.dropWhile isSlash ≠ []) (text : List Char)
    : behindServer (first ++ c :: text) = behindServer first ++ c :: text := by
  have stops : (c :: text).dropWhile (!endsServer ·) = c :: text :=
    List.dropWhile_cons_of_neg (by simp [ends])
  rw [behindServer, List.dropWhile_append, if_neg (by simpa using named), List.dropWhile_append,
    stops, behindServer]
  split
  · next empty => rw [List.isEmpty_iff.mp empty, List.nil_append]
  · rfl

/-- What an address goes on with behind another is read behind the same server. -/
theorem exists_behind {start : List Char} (valid : (parse? (String.ofList start)).isSome)
    : ∃ behind,
        (∀ c ∈ behind.head?, endsServer c = true)
        ∧ behind ⊆ start
        ∧ ∀ {c : Char} {text : List Char} {url : Url},
            endsServer c = true
            → parse? (String.ofList (start ++ c :: text)) = some url
            → url.path = follow [] (segments (pathText (behind ++ counted (c :: text))))
              ∧ url.query
                = (queryText (behind ++ counted (c :: text))).map
                    (Percent.encode queryEscapes) := by
  obtain ⟨known, read⟩ := Option.isSome_iff_exists.mp valid
  obtain ⟨secure, rest, shown, read⟩ := of_parse? read
  have server := (of_ofRest? read).1
  obtain ⟨idle, whole⟩ := List.rdropWhile_prefix isEdge (start.dropWhile isEdge)
  -- blanks at the end of the first address are within the second
  let tail := rest ++ idle.filter (!isIdle ·)
  have kept : (start.dropWhile isEdge).filter (!isIdle ·) = schemeText secure ++ tail := by
    rw [← whole, List.filter_append, ← List.append_assoc, ← shown]
    rfl
  have named : tail.dropWhile isSlash ≠ [] := by
    intro empty
    have restless : rest.dropWhile isSlash = [] := by
      rw [List.dropWhile_eq_nil_iff] at empty ⊢
      exact fun c member => empty c (List.mem_append_left _ member)
    rw [serverText, restless] at server
    change (server? secure []).isSome = true at server
    rw [server?_nil] at server
    cases server
  have solid : start.dropWhile isEdge ≠ [] := by
    intro empty
    rw [empty] at shown
    cases secure <;> cases shown
  refine ⟨behindServer tail, ?_, ?_, ?_⟩
  · intro c first
    have stopped := List.head?_dropWhile_not (!endsServer ·) (tail.dropWhile isSlash)
    rw [← behindServer, Option.mem_def.mp first] at stopped
    simpa using stopped
  · intro c member
    have within : c ∈ tail :=
      (List.dropWhile_sublist _).subset ((List.dropWhile_sublist _).subset member)
    have found : c ∈ (start.dropWhile isEdge).filter (!isIdle ·) :=
      kept ▸ List.mem_append_right _ within
    exact (List.dropWhile_sublist _).subset (List.mem_of_mem_filter found)
  · intro c text url ends read
    obtain ⟨secure', rest', shown', read⟩ := of_parse? read
    rw [List.dropWhile_append, if_neg (by simpa using solid), counted_append_cons ends, kept,
      List.append_assoc] at shown'
    obtain rfl := schemeText_append_inj shown'
    rw [counted_cons ends] at read ⊢
    rw [← behindServer_append_cons ends named]
    exact (of_ofRest? read).2

-----------------------------------------------------------------------------------------
-- Paths and queries that go on
-----------------------------------------------------------------------------------------

/-- What comes behind a query mark is part of the query, up to the fragment. -/
theorem exists_queryText_append {before : List Char} (asking : '?' ∈ before) (whole : '#' ∉ before)
    : ∃ asked, ∀ text, queryText (before ++ text) = some (asked ++ text.takeWhile (· ≠ '#')) := by
  obtain ⟨path, asked, rfl, unasked⟩ := List.eq_append_cons_of_mem asking
  have onPath : ∀ c ∈ path, decide (c ≠ '?' ∧ c ≠ '#') = true := by
    intro c member
    have other : c ≠ '?' := fun same => unasked (same ▸ member)
    have plain : c ≠ '#' := fun same => whole (same ▸ List.mem_append_left _ member)
    exact decide_eq_true ⟨other, plain⟩
  have inQuery : ∀ c ∈ asked, decide (c ≠ '#') = true := by
    intro c member
    refine decide_eq_true fun same => whole ?_
    exact same ▸ List.mem_append_right _ (List.mem_cons_of_mem _ member)
  refine ⟨asked, fun text => ?_⟩
  have found : (path ++ '?' :: asked ++ text).dropWhile (fun c => c ≠ '?' ∧ c ≠ '#')
      = '?' :: (asked ++ text) := by
    rw [List.append_assoc, List.dropWhile_append_of_pos onPath]
    rfl
  rw [queryText_of_mark found, List.takeWhile_append_of_pos inQuery]

/-- Without a query mark, an address goes on with its path. -/
theorem texts_append {before : List Char} (unasked : '?' ∉ before) (whole : '#' ∉ before)
    (text : List Char)
    : pathText (before ++ text) = pathText before ++ pathText text
      ∧ queryText (before ++ text) = queryText text := by
  have onPath : ∀ c ∈ before, decide (c ≠ '?' ∧ c ≠ '#') = true := by
    intro c member
    have other : c ≠ '?' := fun same => unasked (same ▸ member)
    have plain : c ≠ '#' := fun same => whole (same ▸ member)
    exact decide_eq_true ⟨other, plain⟩
  have all : before.takeWhile (fun c => c ≠ '?' ∧ c ≠ '#') = before := by
    rw [← List.append_nil before, List.takeWhile_append_of_pos onPath, List.takeWhile_nil]
  constructor
  · rw [pathText, List.takeWhile_append_of_pos onPath, List.map_append, pathText, pathText, all]
  · rw [queryText, List.dropWhile_append_of_pos onPath, queryText]

theorem pathText_cons {c : Char} (slash : isSlash c = true) (text : List Char)
    : pathText (c :: text) = '/' :: pathText text := by
  simp only [isSlash, Bool.or_eq_true, decide_eq_true_eq] at slash
  rcases slash with rfl | rfl <;> rfl

/-- A path behind a server is empty or starts with a slash. -/
theorem head?_pathText {text : List Char} (starts : ∀ c ∈ text.head?, endsServer c = true)
    (unasked : '?' ∉ text) (whole : '#' ∉ text)
    : ∀ c ∈ (pathText text).head?, c = '/' := by
  cases text with
  | nil =>
      intro c first
      cases first
  | cons c text =>
      have asks : c ≠ '?' := fun same => unasked (same ▸ List.mem_cons_self)
      have marks : c ≠ '#' := fun same => whole (same ▸ List.mem_cons_self)
      have slash : isSlash c = true := by simpa [endsServer, asks, marks] using starts c rfl
      rw [pathText_cons slash]
      rintro _ ⟨⟩
      rfl

/-- The segments of a path behind another one follow those of the other. -/
theorem exists_segments_append {before : List Char} (rooted : ∀ c ∈ before.head?, c = '/')
    : ∃ earlier, ∀ path, segments (before ++ '/' :: path) = earlier ++ splitOn '/' path := by
  cases before with
  | nil => exact ⟨[], fun path => rfl⟩
  | cons c before =>
      obtain rfl := rooted c rfl
      exact ⟨splitOn '/' before, fun path => splitOn_append_mark before path⟩

-----------------------------------------------------------------------------------------
-- Steps of a path
-----------------------------------------------------------------------------------------

/-- Says whether a segment is a step back, in whatever spelling. -/
def isBack (segment : List Char) : Bool :=
  isWordOf backWords (Percent.encode pathEscapes segment)

/-- Says whether a segment is a step that stays, in whatever spelling. -/
def isStay (segment : List Char) : Bool :=
  isWordOf stayWords (Percent.encode pathEscapes segment)

/-- Says whether the path that a text starts with takes a step back. -/
def stepsBack (text : List Char) : Bool :=
  (splitOn '/' (pathText (counted text))).any isBack

/-- What is kept of segments among which there is no step back. A path that ends in a step that
stays ends in a slash.
-/
def kept : List (List Char) → List (List Char)
  | [] => []
  | segment :: rest =>
      (if isStay segment then if rest = [] then [[]] else []
        else [Percent.encode pathEscapes segment]) ++ kept rest

/-- Segments that come first lead to one place, whatever comes behind them. -/
theorem exists_follow_append (path earlier : List (List Char))
    : ∃ reached, ∀ later ≠ [], follow path (earlier ++ later) = follow reached later := by
  induction earlier generalizing path with
  | nil => exact ⟨path, fun later _ => rfl⟩
  | cons segment earlier ih =>
      have goesOn {later : List (List Char)} (more : later ≠ []) : earlier ++ later ≠ [] :=
        fun empty => more (List.append_eq_nil_iff.mp empty).2
      by_cases back : isBack segment = true
      · obtain ⟨reached, led⟩ := ih (stepBack path ++ [])
        refine ⟨reached, fun later more => ?_⟩
        rw [List.cons_append, follow, if_neg (goesOn more), ← led later more]
        exact if_pos back
      by_cases stay : isStay segment = true
      · obtain ⟨reached, led⟩ := ih (path ++ [])
        refine ⟨reached, fun later more => ?_⟩
        rw [List.cons_append, follow, if_neg (goesOn more), ← led later more]
        exact (if_neg back).trans (if_pos stay)
      · obtain ⟨reached, led⟩ := ih (path ++ [Percent.encode pathEscapes segment])
        refine ⟨reached, fun later more => ?_⟩
        rw [List.cons_append, follow, ← led later more]
        exact (if_neg back).trans (if_neg stay)

/-- Without a step back, a path goes on with what is kept. -/
theorem follow_eq_append_kept {later : List (List Char)}
    (forward : ∀ segment ∈ later, isBack segment = false) (path : List (List Char))
    : follow path later = path ++ kept later := by
  induction later generalizing path with
  | nil => exact (List.append_nil path).symm
  | cons segment later ih =>
      obtain ⟨ahead, others⟩ := List.forall_mem_cons.mp forward
      have passes : ¬ isBack segment = true := by simp [ahead]
      rw [kept, ← List.append_assoc, ← ih others]
      by_cases stay : isStay segment = true
      · rw [follow, if_pos stay]
        exact (if_neg passes).trans (if_pos stay)
      · rw [follow, if_neg stay]
        exact (if_neg passes).trans (if_neg stay)

end NodeDevices.Http.Url

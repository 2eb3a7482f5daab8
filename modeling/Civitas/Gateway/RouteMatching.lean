import Civitas.Gateway.RouteTable
import Mathlib.Data.List.Forall2
import Mathlib.Tactic.Common

/-!
# Exact route matching

What `RouteTable.match` of `gateway/router.py` is for, stated on texts alone:
a pattern and a path are cut at their slashes, a part in braces stands for one
segment and any other part for itself, and methods are compared without
regard to case.  The first entry that answers a request in this sense should
be returned, and its parameters should lead from the pattern back to the path.

`_parse_pattern` cuts the bare root into one empty segment, while
`RouteTable.match` cuts it into none.  So an entry for the root answers no
request, and matching is exact on every other request.
-/

namespace Civitas.Gateway

open Civitas.PyText
open Civitas.PyValue

/-! ## What an entry of the table is for -/

/-- `RouteEntry.__post_init__`: the method is kept in upper case. -/
def RouteEntry.postInit (entry : RouteEntry) : RouteEntry :=
  { entry with method := upper entry.method }

/-- `RouteTable(entries)` with entries as they were declared. -/
def RouteTable.ofEntries (entries : List RouteEntry) : RouteTable :=
  entries.map RouteEntry.postInit

/-- A part of a pattern that stands for one segment of any text. -/
def placeholder (name : String) : String :=
  "\x7b" ++ name ++ "\x7d"

/-- A part of a pattern stands for a segment of a path. -/
def StandsFor (part segment : String) : Prop :=
  (∃ name, part = placeholder name) ∨ part = segment

/-- A pattern equals a path segment by segment. -/
def Fits (pattern path : String) : Prop :=
  List.Forall₂ StandsFor (pathSegments pattern) (pathSegments path)

/-- Two methods agree up to the case of their letters. -/
def SameMethod (left right : String) : Prop :=
  List.Forall₂ (fun letter other => letter.toLower = other.toLower)
    left.toList right.toList

/-- A declared entry is meant to answer the request. -/
def RouteEntry.Answers
    (entry : RouteEntry) (method path : String) : Prop :=
  SameMethod entry.method method ∧ Fits entry.pathPattern path

/-- The name inside the braces of a part, if it has them. -/
def placeholderName? (part : String) : Option String :=
  if startsWith part "\x7b" && endsWith part "\x7d"
  then some (inner part)
  else none

/-- The names of the parameters of a pattern. -/
def parameterNames (pattern : String) : List String :=
  (pathSegments pattern).filterMap placeholderName?

/-- The parts of a pattern with its parameters replaced, joined by slashes. -/
def substituteParams
    (pattern : String) (params : List (String × String)) : String :=
  String.ofList (['/'].intercalate
    ((pathSegments pattern).map fun part =>
      match placeholderName? part with
      | some name => ((params.lookup name).getD "").toList
      | none => part.toList))

/-- The answer of a table is the first declared entry meant for a request. -/
structure SelectsFirst
    (entries : List RouteEntry) (method path : String)
    (answer : Option (RouteEntry × List (String × String))) : Prop where
  complete : answer = none →
    ∀ entry ∈ entries, ¬ entry.Answers method path
  first : ∀ found params, answer = some (found, params) →
    ∃ earlier entry later,
      entries = earlier ++ entry :: later ∧
        found = entry.postInit ∧
        entry.Answers method path ∧
        (∀ other ∈ earlier, ¬ other.Answers method path) ∧
        substituteParams entry.pathPattern params = strip path '/'

/-- A request for the bare root, with an entry declared for it. -/
def RootRequested
    (entries : List RouteEntry) (method path : String) : Prop :=
  strip path '/' = "" ∧
    ∃ entry ∈ entries,
      SameMethod entry.method method ∧ strip entry.pathPattern '/' = ""

/-! ## Methods -/

theorem toNat_toUpper (letter : Char) :
    letter.toUpper.toNat =
      if 97 ≤ letter.toNat ∧ letter.toNat ≤ 122 then letter.toNat - 32
      else letter.toNat := by
  unfold Char.toUpper
  split
  · rename_i lower
    have bounds : 97 ≤ letter.toNat ∧ letter.toNat ≤ 122 := by
      simpa [UInt32.le_iff_toNat_le] using lower
    rw [if_pos bounds]
    rw [← Char.toNat_val, UInt32.toNat_add]
    simp
    omega
  · rename_i other
    rw [if_neg]
    simpa [UInt32.le_iff_toNat_le] using other

theorem toNat_toLower (letter : Char) :
    letter.toLower.toNat =
      if 65 ≤ letter.toNat ∧ letter.toNat ≤ 90 then letter.toNat + 32
      else letter.toNat := by
  unfold Char.toLower
  split
  · rename_i upper
    have bounds : 65 ≤ letter.toNat ∧ letter.toNat ≤ 90 := by
      simpa [UInt32.le_iff_toNat_le] using upper
    rw [if_pos bounds]
    rw [← Char.toNat_val, UInt32.toNat_add]
    simp
    omega
  · rename_i other
    rw [if_neg]
    simpa [UInt32.le_iff_toNat_le] using other

theorem toUpper_eq_iff (left right : Char) :
    left.toUpper = right.toUpper ↔ left.toLower = right.toLower := by
  rw [← Char.toNat_inj, ← Char.toNat_inj, toNat_toUpper, toNat_toUpper,
    toNat_toLower, toNat_toLower]
  split_ifs <;> omega

/-- Comparing in upper case is comparing without regard to case. -/
theorem upper_eq_iff (left right : String) :
    upper left = upper right ↔ SameMethod left right := by
  have lists :
      upper left = upper right ↔
        left.toList.map Char.toUpper = right.toList.map Char.toUpper :=
    String.ofList_inj
  have letters :
      (fun letter other : Char => letter.toUpper = other.toUpper) =
        fun letter other => letter.toLower = other.toLower := by
    funext letter other
    exact propext (toUpper_eq_iff letter other)
  have pointwise :
      left.toList.map Char.toUpper = right.toList.map Char.toUpper ↔
        List.Forall₂ Eq (left.toList.map Char.toUpper)
          (right.toList.map Char.toUpper) := by
    rw [List.forall₂_eq_eq_eq]
  rw [lists, pointwise, List.forall₂_map_left_iff,
    List.forall₂_map_right_iff, letters]
  rfl

/-! ## Segments -/

/-- Joining the pieces of a split text gives the text back. -/
theorem intercalate_split (text : String) (letter : Char) :
    [letter].intercalate ((split text letter).map String.toList) =
      text.toList := by
  have pieces :
      (split text letter).map String.toList =
        text.toList.splitOn letter := by
    simp [split, Function.comp_def]
  rw [pieces, List.intercalate_splitOn]

/-- The segments of a path, joined by slashes, are the stripped path. -/
theorem intercalate_pathSegments (path : String) :
    String.ofList
        (['/'].intercalate ((pathSegments path).map String.toList)) =
      strip path '/' := by
  unfold pathSegments
  split
  · rename_i root
    rw [root]
    rfl
  · rw [intercalate_split, String.ofList_toList]

/-- No path has the empty text as its only segment. -/
theorem pathSegments_ne_singleton_empty (path : String) :
    pathSegments path ≠ [""] := by
  intro single
  have joined := intercalate_pathSegments path
  rw [single] at joined
  have root : strip path '/' = "" := joined.symm
  rw [pathSegments, if_pos root] at single
  cases single

theorem toList_placeholder (name : String) :
    (placeholder name).toList = '\x7b' :: (name.toList ++ ['\x7d']) := by
  simp [placeholder]

/-- A part is in braces exactly when it is the placeholder of its inside. -/
theorem braces_iff (part : String) :
    (startsWith part "\x7b" && endsWith part "\x7d") = true ↔
      part = placeholder (inner part) := by
  rw [← String.toList_inj, toList_placeholder, Bool.and_eq_true]
  constructor
  · rintro ⟨opened, closed⟩
    rcases List.isPrefixOf_iff_prefix.mp opened with ⟨tail, opened⟩
    rcases List.isSuffixOf_iff_suffix.mp closed with ⟨front, closed⟩
    have first : part.toList = '\x7b' :: tail := opened.symm
    have last : part.toList = front ++ ['\x7d'] := closed.symm
    cases front with
    | nil =>
        rw [first] at last
        simp at last
    | cons letter front =>
        rw [first] at last
        rw [List.cons_append, List.cons.injEq] at last
        simp [PyText.inner, first, last.2]
  · intro same
    rw [startsWith, endsWith, same]
    constructor
    · rfl
    · rw [List.isSuffixOf_iff_suffix]
      exact ⟨'\x7b' :: (inner part).toList, by simp⟩

theorem inner_placeholder (name : String) :
    inner (placeholder name) = name := by
  simp [PyText.inner, toList_placeholder]

/-- The name of a part in braces is the name it is the placeholder of. -/
theorem placeholderName?_eq_some_iff (part name : String) :
    placeholderName? part = some name ↔ part = placeholder name := by
  unfold placeholderName?
  constructor
  · intro named
    split at named
    · rename_i braces
      cases named
      exact (braces_iff part).mp braces
    · cases named
  · intro same
    have braces : part = placeholder (inner part) := by
      rw [same, inner_placeholder]
    rw [if_pos ((braces_iff part).mpr braces), same, inner_placeholder]

/-! ## Matching -/

/-- The segment `_parse_pattern` makes of a part. -/
def parsePart (part : String) : Bool × String :=
  match placeholderName? part with
  | some name => (true, name)
  | none => (false, part)

theorem parsePattern_eq (pattern : String) :
    parsePattern pattern =
      (split (strip pattern '/') '/').map parsePart := by
  unfold parsePattern
  congr 1
  funext part
  unfold parsePart placeholderName?
  split <;> rfl

/-- Away from the root, a pattern is parsed part by part. -/
theorem parsePattern_of_not_root
    {pattern : String} (proper : strip pattern '/' ≠ "") :
    parsePattern pattern = (pathSegments pattern).map parsePart := by
  rw [parsePattern_eq, pathSegments, if_neg proper]

/-- The root is parsed into one empty segment. -/
theorem parsePattern_of_root
    {pattern : String} (root : strip pattern '/' = "") :
    parsePattern pattern = [(false, "")] := by
  rw [parsePattern_eq, root]
  decide

/-- A parsed part accepts a segment exactly when the part stands for it. -/
theorem parsePart_accepts_iff (part segment : String) :
    (parsePart part).1 = true ∨ (parsePart part).2 = segment ↔
      StandsFor part segment := by
  unfold parsePart StandsFor
  cases named : placeholderName? part with
  | some name =>
      have same := (placeholderName?_eq_some_iff part name).mp named
      simp [same]
  | none =>
      have plain : ¬ ∃ name, part = placeholder name := by
        rintro ⟨name, same⟩
        rw [(placeholderName?_eq_some_iff part name).mpr same] at named
        cases named
      simp [plain]

/-- `_match_segments` succeeds exactly on the segments its entry accepts. -/
theorem matchSegments_isSome_iff
    (entrySegments : List (Bool × String)) (segments : List String)
    (params : List (String × String)) :
    (matchSegments entrySegments segments params).isSome ↔
      List.Forall₂ (fun part segment => part.1 = true ∨ part.2 = segment)
        entrySegments segments := by
  induction entrySegments generalizing segments params with
  | nil =>
      cases segments with
      | nil => simp [matchSegments]
      | cons segment segments => simp [matchSegments]
  | cons part entrySegments ih =>
      rcases part with ⟨isParam, name⟩
      cases segments with
      | nil => cases isParam <;> simp [matchSegments]
      | cons segment segments =>
          rw [List.forall₂_cons]
          cases isParam with
          | true => simp [matchSegments, ih]
          | false =>
              by_cases same : name = segment
              · simp [matchSegments, same, ih]
              · simp [matchSegments, same]

/-- The names a parsed pattern binds. -/
def boundNames (entrySegments : List (Bool × String)) : List String :=
  (entrySegments.filter (·.1)).map (·.2)

/-- Matching leaves the names that the rest does not bind alone. -/
theorem lookup_of_matchSegments
    {entrySegments : List (Bool × String)} {segments : List String}
    {params found : List (String × String)} {name : String}
    (matched : matchSegments entrySegments segments params = some found)
    (unbound : name ∉ boundNames entrySegments) :
    found.lookup name = params.lookup name := by
  induction entrySegments generalizing segments params with
  | nil =>
      cases segments with
      | nil =>
          cases matched
          rfl
      | cons segment segments => cases matched
  | cons part entrySegments ih =>
      rcases part with ⟨isParam, bound⟩
      cases segments with
      | nil => cases isParam <;> cases matched
      | cons segment segments =>
          cases isParam with
          | true =>
              simp only [boundNames, List.filter_cons_of_pos, List.map_cons,
                List.mem_cons, not_or] at unbound
              rw [ih matched unbound.2, List.lookup_cons,
                beq_eq_false_iff_ne.mpr unbound.1]
          | false =>
              simp only [matchSegments] at matched
              split at matched
              · exact ih matched unbound
              · cases matched

/-- The segment a parsed part is filled with. -/
def fillPart
    (params : List (String × String)) (part : Bool × String) : String :=
  if part.1 then (params.lookup part.2).getD "" else part.2

/-- With distinct names, the parameters found fill the pattern to the path. -/
theorem fill_of_matchSegments
    {entrySegments : List (Bool × String)} {segments : List String}
    {params found : List (String × String)}
    (matched : matchSegments entrySegments segments params = some found)
    (distinct : (boundNames entrySegments).Nodup) :
    entrySegments.map (fillPart found) = segments := by
  induction entrySegments generalizing segments params with
  | nil =>
      cases segments with
      | nil => rfl
      | cons segment segments => cases matched
  | cons part entrySegments ih =>
      rcases part with ⟨isParam, name⟩
      cases segments with
      | nil => cases isParam <;> cases matched
      | cons segment segments =>
          cases isParam with
          | true =>
              simp only [boundNames, List.filter_cons_of_pos, List.map_cons,
                List.nodup_cons] at distinct
              rw [List.map_cons, ih matched distinct.2]
              have kept : matchSegments entrySegments segments
                  ((name, segment) :: params) = some found := matched
              simp [fillPart, lookup_of_matchSegments kept distinct.1]
          | false =>
              simp only [matchSegments] at matched
              split at matched
              · rename_i same
                rw [List.map_cons, ih matched distinct]
                simp [fillPart, same]
              · cases matched

theorem boundNames_map_parsePart (parts : List String) :
    boundNames (parts.map parsePart) =
      parts.filterMap placeholderName? := by
  induction parts with
  | nil => rfl
  | cons part parts ih =>
      have rest := ih
      unfold boundNames at rest
      cases named : placeholderName? part with
      | some name => simp [boundNames, parsePart, named, rest]
      | none => simp [boundNames, parsePart, named, rest]

/-- Filling the parts of a pattern is substituting into the pattern. -/
theorem substituteParams_eq
    (pattern : String) (params : List (String × String)) :
    substituteParams pattern params =
      String.ofList (['/'].intercalate
        (((pathSegments pattern).map
          (fun part => fillPart params (parsePart part))).map
            String.toList)) := by
  unfold substituteParams
  rw [List.map_map]
  congr 3
  funext part
  cases named : placeholderName? part with
  | some name => simp [fillPart, parsePart, named]
  | none => simp [fillPart, parsePart, named]

/-! ## Entries -/

/-- The parameters with which a declared entry answers a request. -/
def RouteEntry.answer?
    (entry : RouteEntry) (method path : String) :
    Option (RouteEntry × List (String × String)) :=
  if entry.postInit.method = upper method
  then
    (matchSegments entry.postInit.segments (pathSegments path) []).map
      fun params => (entry.postInit, params)
  else none

/-- A pattern with parts matches the paths it fits. -/
theorem matches_iff_fits_of_parts
    {pattern : String} (proper : strip pattern '/' ≠ "") (path : String) :
    (matchSegments (parsePattern pattern) (pathSegments path) []).isSome ↔
      Fits pattern path := by
  rw [matchSegments_isSome_iff, parsePattern_of_not_root proper,
    List.forall₂_map_left_iff, Fits]
  simp only [parsePart_accepts_iff]

/-- No pattern matches the bare root: every pattern has a first segment. -/
theorem not_matches_bare_root
    {path : String} (bare : strip path '/' = "") (pattern : String) :
    matchSegments (parsePattern pattern) (pathSegments path) [] = none := by
  rw [pathSegments, if_pos bare, parsePattern_eq, split]
  cases parts : (strip pattern '/').toList.splitOn '/' with
  | nil => exact absurd parts (List.splitOn_ne_nil _ _)
  | cons part rest =>
      rcases parsed : parsePart (String.ofList part) with ⟨isParam, name⟩
      cases isParam <;> simp [matchSegments, parsed]

/-- A pattern for the root matches no path at all. -/
theorem not_matches_of_root
    {pattern : String} (root : strip pattern '/' = "") (path : String) :
    matchSegments (parsePattern pattern) (pathSegments path) [] = none := by
  rw [parsePattern_of_root root]
  cases segments : pathSegments path with
  | nil => rfl
  | cons segment rest =>
      cases rest with
      | cons other rest =>
          simp only [matchSegments]
          split <;> rfl
      | nil =>
          have named : "" ≠ segment := by
            intro empty
            apply pathSegments_ne_singleton_empty path
            rw [segments, empty]
          simp [matchSegments, named]

/-- A pattern for the root fits the root and nothing else. -/
theorem fits_of_root_iff
    {pattern : String} (root : strip pattern '/' = "") (path : String) :
    Fits pattern path ↔ strip path '/' = "" := by
  have none : pathSegments pattern = [] := by
    rw [pathSegments, if_pos root]
  rw [Fits, none, List.forall₂_nil_left_iff]
  constructor
  · intro bare
    have joined := intercalate_pathSegments path
    rw [bare] at joined
    exact joined.symm
  · intro bare
    rw [pathSegments, if_pos bare]

/-- Unless both are the root, a pattern matches the paths it fits. -/
theorem matches_iff_fits
    {pattern path : String}
    (proper : ¬ (strip pattern '/' = "" ∧ strip path '/' = "")) :
    (matchSegments (parsePattern pattern) (pathSegments path) []).isSome ↔
      Fits pattern path := by
  by_cases root : strip pattern '/' = ""
  · rw [not_matches_of_root root, fits_of_root_iff root]
    have elsewhere : strip path '/' ≠ "" := fun bare => proper ⟨root, bare⟩
    simp [elsewhere]
  · exact matches_iff_fits_of_parts root path

theorem RouteEntry.answer?_isSome_iff
    (entry : RouteEntry) (method path : String) :
    (entry.answer? method path).isSome ↔
      SameMethod entry.method method ∧
        (matchSegments (parsePattern entry.pathPattern)
          (pathSegments path) []).isSome := by
  have methods :
      entry.postInit.method = upper method ↔
        SameMethod entry.method method := upper_eq_iff _ _
  unfold RouteEntry.answer?
  by_cases same : entry.postInit.method = upper method
  · rw [if_pos same, Option.isSome_map]
    exact (and_iff_right (methods.mp same)).symm
  · have differ : ¬ SameMethod entry.method method :=
      fun agree => same (methods.mpr agree)
    simp [same, differ]

/-- What an entry answers with leads from its pattern back to the path. -/
theorem RouteEntry.substituteParams_of_answer?
    {entry found : RouteEntry} {method path : String}
    {params : List (String × String)}
    (distinct : (parameterNames entry.pathPattern).Nodup)
    (answered : entry.answer? method path = some (found, params)) :
    found = entry.postInit ∧
      substituteParams entry.pathPattern params = strip path '/' := by
  unfold RouteEntry.answer? at answered
  split at answered
  · rcases Option.map_eq_some_iff.mp answered with ⟨_, matched, same⟩
    cases same
    refine ⟨rfl, ?_⟩
    have proper : strip entry.pathPattern '/' ≠ "" := by
      intro root
      have unmatched := not_matches_of_root root path
      rw [RouteEntry.segments, RouteEntry.postInit, unmatched] at matched
      cases matched
    rw [RouteEntry.segments, RouteEntry.postInit,
      parsePattern_of_not_root proper] at matched
    have names : (boundNames
        ((pathSegments entry.pathPattern).map parsePart)).Nodup := by
      rw [boundNames_map_parsePart]
      exact distinct
    have filled := fill_of_matchSegments matched names
    rw [List.map_map] at filled
    rw [substituteParams_eq, ← intercalate_pathSegments path, ← filled]
    rfl
  · cases answered

/-! ## The table -/

theorem RouteTable.match_ofEntries
    (entries : List RouteEntry) (method path : String) :
    (RouteTable.ofEntries entries).match method path =
      entries.findSome? (RouteEntry.answer? · method path) := by
  unfold RouteTable.match RouteTable.ofEntries
  rw [List.findSome?_map]
  rfl

/-- Without a request for a declared root, entries answer as they should. -/
theorem RouteEntry.answers_iff_of_not_rootRequested
    {entries : List RouteEntry} {method path : String}
    (proper : ¬ RootRequested entries method path)
    {entry : RouteEntry} (member : entry ∈ entries) :
    (entry.answer? method path).isSome ↔ entry.Answers method path := by
  rw [entry.answer?_isSome_iff, RouteEntry.Answers]
  apply and_congr_right
  intro same
  apply matches_iff_fits
  rintro ⟨root, bare⟩
  exact proper ⟨bare, entry, member, same, root⟩

/--
A table returns the first entry meant for a request, with the parameters that
lead back to its path, exactly when the request is not one for the bare root
that an entry is declared for.
-/
theorem table_selects_first_iff
    (entries : List RouteEntry) (method path : String)
    (distinct : ∀ entry ∈ entries,
      (parameterNames entry.pathPattern).Nodup) :
    SelectsFirst entries method path
        ((RouteTable.ofEntries entries).match method path) ↔
      ¬ RootRequested entries method path := by
  rw [RouteTable.match_ofEntries]
  constructor
  · rintro selects ⟨bare, entry, member, same, root⟩
    have unanswered :
        entries.findSome? (RouteEntry.answer? · method path) = none := by
      rw [List.findSome?_eq_none_iff]
      intro other _
      apply Option.not_isSome_iff_eq_none.mp
      rw [other.answer?_isSome_iff, not_matches_bare_root bare]
      simp
    apply selects.complete unanswered entry member
    exact ⟨same, (fits_of_root_iff root path).mpr bare⟩
  · intro proper
    constructor
    · intro found entry member answers
      have unanswered := List.findSome?_eq_none_iff.mp found entry member
      have some :=
        (RouteEntry.answers_iff_of_not_rootRequested proper member).mpr
          answers
      rw [unanswered] at some
      cases some
    · intro chosen params found
      rcases List.findSome?_eq_some_iff.mp found with
        ⟨earlier, entry, later, split, answered, skipped⟩
      have member : entry ∈ entries := by
        rw [split]
        simp
      rcases RouteEntry.substituteParams_of_answer?
        (distinct entry member) answered with ⟨same, filled⟩
      refine ⟨earlier, entry, later, split, same, ?_, ?_, filled⟩
      · apply (RouteEntry.answers_iff_of_not_rootRequested
          proper member).mp
        rw [answered]
        rfl
      · intro other before answers
        have earlierMember : other ∈ entries := by
          rw [split]
          exact List.mem_append_left _ before
        have some :=
          (RouteEntry.answers_iff_of_not_rootRequested
            proper earlierMember).mpr answers
        rw [skipped other before] at some
        cases some

/-- A table of one entry with a parameter. -/
def agentRoutes : List RouteEntry :=
  [{ method := "get", pathPattern := "/agents/\x7bname\x7d",
     agent := "directory" }]

theorem agent_route_selected_first :
    (∀ entry ∈ agentRoutes, (parameterNames entry.pathPattern).Nodup) ∧
      SelectsFirst agentRoutes "GET" "/agents/ada/"
        ((RouteTable.ofEntries agentRoutes).match "GET" "/agents/ada/") := by
  have distinct : ∀ entry ∈ agentRoutes,
      (parameterNames entry.pathPattern).Nodup := by
    decide +kernel
  have proper : ¬ RootRequested agentRoutes "GET" "/agents/ada/" := by
    have parts : strip "/agents/ada/" '/' ≠ "" := by
      decide +kernel
    exact fun requested => parts requested.1
  exact
    ⟨distinct,
      (table_selects_first_iff agentRoutes "GET" "/agents/ada/"
        distinct).mpr proper⟩

/-- An entry for the root. -/
def rootRoute : RouteEntry where
  method := "GET"
  pathPattern := "/"
  agent := "home"

/-- A pattern without parameters that does not match its own path. -/
theorem root_route_not_selected :
    (∀ entry ∈ [rootRoute], (parameterNames entry.pathPattern).Nodup) ∧
      ¬ SelectsFirst [rootRoute] "GET" "/"
        ((RouteTable.ofEntries [rootRoute]).match "GET" "/") := by
  have root : strip "/" '/' = "" := by
    decide +kernel
  have unanswered :
      (RouteTable.ofEntries [rootRoute]).match "GET" "/" = none := by
    rw [RouteTable.match_ofEntries, List.findSome?_eq_none_iff]
    intro entry _
    apply Option.not_isSome_iff_eq_none.mp
    rw [entry.answer?_isSome_iff, not_matches_bare_root root]
    simp
  constructor
  · decide +kernel
  · intro selects
    apply selects.complete unanswered rootRoute
      (List.mem_singleton_self rootRoute)
    constructor
    · exact (upper_eq_iff rootRoute.method "GET").mp rfl
    · exact (fits_of_root_iff root "/").mpr root

end Civitas.Gateway

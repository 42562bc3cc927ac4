import Bindery.Proofs.FixedPoint

/-!
# The way of a single method

Rounds go over all classes at once, find or create classes that methods share, and take class
prefixes off every method in between.  Still no method has an influence on another.  What a round
makes of a method is told by its class path, its name and its parameters, and a method that no
longer matches can only lose prefixes, which are neither path nor parameter.  So the loop takes each
method to where it would get on its own.
-/

namespace Bindery

variable {settings : Settings} {draft final : Draft} {forest : Forest} {id : FunctionId}
  {c : ClassId}

/-! ## Stations -/

namespace NumberHandles

/-- A method on its way: the names on the way to its class, and what it is there. -/
structure Station where
  path : List String
  function : Function
  deriving DecidableEq

namespace Station

variable {station : Station} {base : String}

/-- The name of the class, in which the path ends. -/
def className (station : Station) : String :=
  station.path.getLast?.getD ""

/-- Where a number handle in front takes a method: it stays and refers to the class of the handle if
it is exempt, or else it goes down to that class without the parameter. -/
def moved (settings : Settings) (station : Station) (base : String) : Station :=
  if settings.isHandleExempt station.function.name station.className then
    { station with function := station.function.mapParameter 0 (asReference base) }
  else
    { path := station.path ++ [Identifier.snakeToPascal base]
      function := station.function.dropParameter 0 }

/-- The method without the prefix of its class. -/
def stripped (station : Station) : Station :=
  { station with function := Hoisting.stripPrefix station.className station.function }

/-- The station after this one, by way of a number handle in front. -/
def next (settings : Settings) (station : Station) (base : String) : Station :=
  (station.moved settings base).stripped

theorem weight_next_lt (marked : settings.markers.numberHandle ≠ "")
    (matched : handleBase? settings station.function = some base) :
    (station.next settings base).function.weight < station.function.weight := by
  refine (Hoisting.weight_stripPrefix_le _ _).trans_lt ?_
  rw [moved]
  split
  · have shortened := weight_asReference matched
    have positive : settings.markers.numberHandle.length ≠ 0 :=
      fun empty => marked (String.length_eq_zero_iff.1 empty)
    dsimp only
    omega
  · exact weight_dropParameter matched

/-- Where a method gets to on its own: it goes on as long as there is a number handle in front. -/
def last (settings : Settings) (marked : settings.markers.numberHandle ≠ "")
    (station : Station) : Station :=
  match _matched : handleBase? settings station.function with
  | none => station
  | some base => (station.next settings base).last settings marked
termination_by station.function.weight
decreasing_by exact weight_next_lt marked _matched

theorem last_of_unmatched (marked : settings.markers.numberHandle ≠ "")
    (unmatched : handleBase? settings station.function = none) :
    station.last settings marked = station := by
  rw [last]
  split
  · rfl
  · rename_i matched
    rw [unmatched] at matched
    cases matched

theorem last_of_matched (marked : settings.markers.numberHandle ≠ "")
    (matched : handleBase? settings station.function = some base) :
    station.last settings marked = (station.next settings base).last settings marked := by
  rw [last]
  split
  · rename_i unmatched
    rw [matched] at unmatched
    cases unmatched
  · rename_i alsoMatched
    rw [matched] at alsoMatched
    cases alsoMatched
    rfl

/-- Whether two stations differ in no more than the method's name and return. -/
structure Agrees (left right : Station) : Prop where
  path : left.path = right.path
  params : left.function.params = right.function.params

namespace Agrees

variable {left middle right : Station}

theorem refl (station : Station) : station.Agrees station :=
  ⟨rfl, rfl⟩

theorem trans (first : left.Agrees middle) (second : middle.Agrees right) : left.Agrees right :=
  ⟨first.path.trans second.path, first.params.trans second.params⟩

theorem handleBase?_eq (agrees : left.Agrees right) :
    handleBase? settings left.function = handleBase? settings right.function := by
  rw [handleBase?, handleBase?, agrees.params]

/-- A method without a number handle in front is where it gets to, whatever it is called. -/
theorem last (agrees : left.Agrees right) (marked : settings.markers.numberHandle ≠ "")
    (unmatched : handleBase? settings right.function = none) :
    (left.last settings marked).Agrees (right.last settings marked) := by
  rw [last_of_unmatched marked unmatched,
    last_of_unmatched marked (agrees.handleBase?_eq.trans unmatched)]
  exact agrees

end Agrees

end Station

end NumberHandles

/-! ## Stations in a forest -/

namespace Hierarchy

theorem getLast?_path (hierarchy : Hierarchy) (c : ClassId) :
    (hierarchy.path c).getLast? = some (hierarchy.name c) := by
  cases isParent : hierarchy.parent? c with
  | none => rw [path_of_root isParent, List.getLast?_singleton]
  | some parent => rw [path_of_parent isParent, List.getLast?_concat]

end Hierarchy

/-- Where a method of a class stands. -/
def Forest.station (forest : Forest) (c : ClassId) (id : FunctionId) : NumberHandles.Station where
  path := forest.hierarchy.path c
  function := forest.functionAt id

namespace NumberHandles

theorem className_station (forest : Forest) (c : ClassId) (id : FunctionId) :
    (forest.station c id).className = forest.className c := by
  rw [Station.className, Forest.station, Hierarchy.getLast?_path]
  rfl

section Relocated

variable {matching rest : List Match} {found : Match}

/-- A match that must move takes its method to the class of its handle below the old one. -/
theorem exists_inner_of_relocate
    (remain : MatchesRemain settings (found :: rest) draft.forest)
    (moves : settings.isHandleExempt (draft.forest.functionAt found.function).name
      (draft.forest.className found.c) = false) :
    ∃ inner, found.function ∈ (relocate settings draft found).forest.methods inner ∧
      (relocate settings draft found).forest.hierarchy.parent? inner = some found.c ∧
      (relocate settings draft found).forest.hierarchy.name inner =
        Identifier.snakeToPascal found.base := by
  obtain ⟨isMethod, matched⟩ := remain.2 found List.mem_cons_self
  obtain ⟨first, others, leading, -⟩ := handleBase?_eq_some matched
  have below : ∀ outer ∈ some found.c, outer < draft.forest.hierarchy.size := by
    intro outer isOuter
    exact Option.mem_some_iff.1 isOuter ▸ Forest.lt_size_of_mem_methods isMethod
  generalize isRequired : draft.forest.requireClass (some found.c)
    (Identifier.snakeToPascal found.base) = required
  have isThere : required.2 < required.1.hierarchy.size :=
    isRequired ▸ Hierarchy.snd_require_lt _ below
  have isParent : required.1.hierarchy.parent? required.2 = some found.c :=
    isRequired ▸ Hierarchy.parent?_require _ below
  have isNamed : required.1.hierarchy.name required.2 = Identifier.snakeToPascal found.base :=
    isRequired ▸ Hierarchy.name_require _ below
  have stillMethod : found.function ∈ required.1.methods found.c := by
    rw [← isRequired, Forest.methods, Forest.classAt_requireClass]
    exact isMethod
  have different : found.c ≠ required.2 := Nat.ne_of_lt (Hierarchy.parent_lt isParent)
  rw [forest_relocate rfl leading isRequired, moves, if_neg Bool.false_ne_true]
  refine ⟨required.2, ?_, ?_, ?_⟩
  · rw [Forest.methods, Forest.classAt_descend_inner stillMethod different isThere]
    exact List.mem_append_right _ (List.mem_singleton_self _)
  · rw [Forest.descend_eq stillMethod _ different]
    exact isParent
  · rw [Forest.descend_eq stillMethod _ different]
    exact isNamed

/-- A loop over matches does this for every match, and where classes stand is not changed by later
ones. -/
theorem exists_inner_of_foldl_relocate (remain : MatchesRemain settings matching draft.forest)
    (ends : matching.foldl (relocate settings) draft = final) (member : found ∈ matching)
    (moves : settings.isHandleExempt (draft.forest.functionAt found.function).name
      (draft.forest.className found.c) = false) :
    ∃ inner, found.function ∈ final.forest.methods inner ∧
      final.forest.hierarchy.parent? inner = some found.c ∧
      final.forest.hierarchy.name inner = Identifier.snakeToPascal found.base := by
  induction matching generalizing draft with
  | nil => cases member
  | cons first rest ih =>
      obtain ⟨grows, remains⟩ := moves_relocate remain
      have fresh := (List.nodup_cons.1 remain.1).1
      rcases List.mem_cons.1 member with rfl | later
      · obtain ⟨inner, isMethod, isParent, isNamed⟩ := exists_inner_of_relocate remain moves
        have extends' : (relocate settings draft found).forest.hierarchy.Extends
            final.forest.hierarchy :=
          ends ▸ (moves_foldl_of_remaining (fun _ _ _ => moves_relocate) remains).hierarchy_extends
        have isClass := Hierarchy.lt_size_of_parent? isParent
        have stays := ((foldl_relocate remains ends).2 _ fresh).2 inner isMethod
        exact ⟨inner, stays, (extends'.parent?_eq isClass).trans isParent,
          (extends'.name_eq isClass).trans isNamed⟩
      · have different : found.function ≠ first.function := fun same =>
          fresh (List.mem_map.2 ⟨found, later, same⟩)
        have sameFunction : (relocate settings draft first).forest.functionAt found.function =
            draft.forest.functionAt found.function := (spares_relocate different).function
        have sameName : (relocate settings draft first).forest.className found.c =
            draft.forest.className found.c :=
          grows.hierarchy_extends.name_eq
            (Forest.lt_size_of_mem_methods (remain.2 found member).1)
        exact ih remains ends later (by rw [sameFunction, sameName]; exact moves)

/-- So it takes the method of each match to where its number handle takes it. -/
theorem exists_station_moved (remain : MatchesRemain settings matching draft.forest)
    (ends : matching.foldl (relocate settings) draft = final) (member : found ∈ matching) :
    ∃ inner, found.function ∈ final.forest.methods inner ∧
      final.forest.station inner found.function =
        (draft.forest.station found.c found.function).moved settings found.base := by
  have grows : draft.forest.hierarchy.Extends final.forest.hierarchy :=
    ends ▸ (moves_foldl_of_remaining (fun _ _ _ => moves_relocate) remain).hierarchy_extends
  have samePath := grows.path_eq (Forest.lt_size_of_mem_methods (remain.2 found member).1)
  obtain ⟨becomes, stays⟩ := (foldl_relocate remain ends).1 found member
  rw [relocated] at becomes
  rw [Station.moved, className_station]
  cases exempt : settings.isHandleExempt (draft.forest.functionAt found.function).name
      (draft.forest.className found.c) with
  | true =>
      rw [exempt, if_pos rfl] at becomes
      refine ⟨found.c, stays exempt, Eq.trans ?_ (if_pos exempt).symm⟩
      rw [Forest.station, samePath, becomes]
      rfl
  | false =>
      rw [exempt, if_neg Bool.false_ne_true] at becomes
      obtain ⟨inner, isThere, isParent, isNamed⟩ :=
        exists_inner_of_foldl_relocate remain ends member exempt
      refine ⟨inner, isThere, Eq.trans ?_ (if_neg (Bool.eq_false_iff.1 exempt)).symm⟩
      rw [Forest.station, Hierarchy.path_of_parent isParent, isNamed, samePath, becomes]
      rfl

end Relocated

/-! ## Rounds -/

/-- Taking off prefixes leaves every method in its class. -/
theorem station_stripClassPrefixes {moved next : Draft} (distinct : moved.forest.MethodsDistinct)
    (strips : Hoisting.stripClassPrefixes moved.forest.allClasses moved = next)
    (isMethod : id ∈ moved.forest.methods c) :
    id ∈ next.forest.methods c ∧
      next.forest.station c id = (moved.forest.station c id).stripped := by
  obtain ⟨frame, -, stripped, -⟩ :=
    Hoisting.stripClassPrefixes_spec moved.forest.hierarchy.nodup_all distinct strips
  have isClass := Hierarchy.mem_all_iff.2 (Forest.lt_size_of_mem_methods isMethod)
  refine ⟨?_, ?_⟩
  · rw [frame]
    exact isMethod
  · rw [Station.stripped, className_station, Forest.station, stripped c isClass id isMethod, frame]
    rfl

section Round

variable {next : Draft} {again : Bool} {base : String} (distinct : draft.forest.MethodsDistinct)
  (ends : round settings draft = (next, again)) (isMethod : id ∈ draft.forest.methods c)

include distinct ends isMethod

/-- A round takes a method that matches to its next station. -/
theorem station_of_round_matched
    (matched : handleBase? settings (draft.forest.functionAt id) = some base) :
    ∃ inner, id ∈ next.forest.methods inner ∧
      next.forest.station inner id = (draft.forest.station c id).next settings base := by
  obtain ⟨moved, relocates, distinctMoved, -, strips, -⟩ := exists_relocated_of_round distinct ends
  have member : ⟨c, id, base⟩ ∈ findMatches settings draft.forest :=
    mem_findMatches_iff.2 ⟨isMethod, matched⟩
  obtain ⟨inner, isThere, isMoved⟩ :=
    exists_station_moved (matchesRemain_findMatches distinct) relocates member
  obtain ⟨isHere, isStripped⟩ := station_stripClassPrefixes distinctMoved strips isThere
  rw [isMoved] at isStripped
  exact ⟨inner, isHere, isStripped⟩

/-- A round takes no more than a class prefix from a method that does not match. -/
theorem station_of_round_unmatched
    (unmatched : handleBase? settings (draft.forest.functionAt id) = none) :
    id ∈ next.forest.methods c ∧
      (draft.forest.station c id).Agrees (next.forest.station c id) := by
  obtain ⟨moved, relocates, distinctMoved, grows, strips, -⟩ :=
    exists_relocated_of_round distinct ends
  have unfound : id ∉ (findMatches settings draft.forest).map (·.function) := by
    intro isFound
    obtain ⟨found, member, rfl⟩ := List.mem_map.1 isFound
    rw [(mem_findMatches_iff.1 member).2] at unmatched
    cases unmatched
  obtain ⟨same, stays⟩ :=
    (foldl_relocate (matchesRemain_findMatches distinct) relocates).2 id unfound
  have isThere := stays c isMethod
  obtain ⟨isHere, isStripped⟩ := station_stripClassPrefixes distinctMoved strips isThere
  have samePath := grows.path_eq (Forest.lt_size_of_mem_methods isMethod)
  refine ⟨isHere, ?_, ?_⟩
  · rw [isStripped]
    exact samePath.symm
  · rw [isStripped, Forest.station, Forest.station, same]
    rfl

end Round

variable {start : Draft} {count : Nat} (marked : settings.markers.numberHandle ≠ "")

/-- A round takes no method to where it would not get on its own. -/
theorem agrees_last_of_round {next : Draft} {again : Bool}
    (distinct : draft.forest.MethodsDistinct) (ends : round settings draft = (next, again))
    (isMethod : id ∈ draft.forest.methods c) :
    ∃ inner, id ∈ next.forest.methods inner ∧
      ((draft.forest.station c id).last settings marked).Agrees
        ((next.forest.station inner id).last settings marked) := by
  cases matched : handleBase? settings (draft.forest.functionAt id) with
  | none =>
      obtain ⟨isThere, agrees⟩ := station_of_round_unmatched distinct ends isMethod matched
      have unmatched := agrees.handleBase?_eq.symm.trans matched
      exact ⟨c, isThere, agrees.last marked unmatched⟩
  | some base =>
      obtain ⟨inner, isThere, isNext⟩ := station_of_round_matched distinct ends isMethod matched
      refine ⟨inner, isThere, ?_⟩
      rw [isNext, Station.last_of_matched marked matched]
      exact .refl _

/-- Neither does any number of rounds. -/
theorem agrees_last_of_rounds (rounds : Rounds settings start count draft)
    (distinct : start.forest.MethodsDistinct) (isMethod : id ∈ start.forest.methods c) :
    ∃ inner, id ∈ draft.forest.methods inner ∧
      ((start.forest.station c id).last settings marked).Agrees
        ((draft.forest.station inner id).last settings marked) := by
  induction rounds with
  | start => exact ⟨c, isMethod, .refl _⟩
  | next earlier found ih =>
      obtain ⟨between, isThere, agrees⟩ := ih
      obtain ⟨inner, arrives, further⟩ := agrees_last_of_round marked
        (earlier.methodsDistinct distinct) found isThere
      exact ⟨inner, arrives, agrees.trans further⟩

/-- The loop ends with every method at the last station of its own way. -/
theorem exists_extract_agrees_last (distinct : draft.forest.MethodsDistinct) :
    ∃ final rounds, extract settings draft = .ok (final, rounds) ∧
      final.forest.MethodsDistinct ∧
      ∀ c, ∀ id ∈ draft.forest.methods c, ∃ inner, id ∈ final.forest.methods inner ∧
        ((draft.forest.station c id).last settings marked).Agrees
          (final.forest.station inner id) := by
  have before : Rounds settings draft 0 draft := .start
  obtain ⟨final, rounds, last, result, reached, ended⟩ |
    ⟨_, _, _, _, _, -, -, stuck⟩ := extractFrom_spec distinct before
  · have distinctLast := reached.methodsDistinct distinct
    have moves := moves_round settings distinctLast
    rw [ended] at moves
    refine ⟨final, rounds, result, methodsDistinct_of_moves moves distinctLast, ?_⟩
    intro c id isMethod
    obtain ⟨between, isThere, agrees⟩ := agrees_last_of_rounds marked reached distinct isMethod
    obtain ⟨inner, arrives, further⟩ := agrees_last_of_round marked distinctLast ended isThere
    have unmatched : handleBase? settings (final.forest.station inner id).function = none :=
      handleBase?_of_ended distinctLast ended arrives
    rw [Station.last_of_unmatched marked unmatched] at further
    exact ⟨inner, arrives, agrees.trans further⟩
  · exact absurd stuck.unmarked marked

/-- With a marker that is not empty, the loop over number handles takes every method to the path and
the parameters that the method gets to on its own.  So the same method, in classes of the same path,
gets to the same path and parameters, whatever else there is in the two forests. -/
theorem extract_eq_last (distinct : draft.forest.MethodsDistinct) :
    ∃ final rounds, extract settings draft = .ok (final, rounds) ∧
      (∀ c, ∀ id ∈ draft.forest.methods c, ∃ inner,
        (∀ place, id ∈ final.forest.methods place ↔ place = inner) ∧
        final.forest.hierarchy.path inner =
          ((draft.forest.station c id).last settings marked).path ∧
        (final.forest.functionAt id).params =
          ((draft.forest.station c id).last settings marked).function.params) ∧
      ∀ other : Draft, other.forest.MethodsDistinct →
        ∃ otherFinal others, extract settings other = .ok (otherFinal, others) ∧
          ∀ c, ∀ id ∈ draft.forest.methods c, ∀ d, ∀ twin ∈ other.forest.methods d,
            draft.forest.station c id = other.forest.station d twin →
            ∃ inner place, id ∈ final.forest.methods inner ∧
              twin ∈ otherFinal.forest.methods place ∧
              final.forest.hierarchy.path inner = otherFinal.forest.hierarchy.path place ∧
              (final.forest.functionAt id).params =
                (otherFinal.forest.functionAt twin).params := by
  obtain ⟨final, rounds, result, distinctFinal, each⟩ := exists_extract_agrees_last marked distinct
  refine ⟨final, rounds, result, ?_, ?_⟩
  · intro c id isMethod
    obtain ⟨inner, isThere, agrees⟩ := each c id isMethod
    refine ⟨inner, fun place => ⟨fun isHere => ?_, fun same => same ▸ isThere⟩,
      agrees.path.symm, agrees.params.symm⟩
    exact distinctFinal.unique isHere isThere
  · intro other distinctOther
    obtain ⟨otherFinal, others, otherResult, -, eachOther⟩ :=
      exists_extract_agrees_last marked distinctOther
    refine ⟨otherFinal, others, otherResult, ?_⟩
    intro c id isMethod d twin isTwin same
    obtain ⟨inner, isThere, agrees⟩ := each c id isMethod
    obtain ⟨place, isHere, alsoAgrees⟩ := eachOther d twin isTwin
    rw [← same] at alsoAgrees
    exact ⟨inner, place, isThere, isHere, agrees.path.symm.trans alsoAgrees.path,
      agrees.params.symm.trans alsoAgrees.params⟩

/-- A method that is exempt on the class of friends only, and only under the name that it has there,
beside one that goes to the same class. -/
def invitations : Draft :=
  let number (name : String) : Argument :=
    .plain { name, type := { ValueType.void with kind := .scalar .uint } }
  let toxClass := (Forest.empty.requireClass none "Tox").1
  let stored := [
    { name := "friend_conference_invite", cname := "", ret := default,
      params := [number "friend_number", number "conference_number"] },
    { name := "friend_delete", cname := "", ret := default,
      params := [number "friend_number"] }].foldl Forest.addFunction toxClass
  { forest := stored.modifyClass 0 fun c => { c with methods := [0, 1] } }

/-- The first round moves the method and makes its name the exempt one, so that the second leaves it
with a reference to the conference. -/
theorem extract_eq_last_invitations :
    invitations.forest.MethodsDistinct ∧ Settings.default.markers.numberHandle ≠ "" ∧
      ∃ final rounds, extract Settings.default invitations = .ok (final, rounds) ∧
        ∃ inner, (∀ place, 0 ∈ final.forest.methods place ↔ place = inner) ∧
          final.forest.hierarchy.path inner = ["Tox", "Friend"] ∧
          (final.forest.functionAt 0).params = [.plain {
            name := "conference"
            type := {
              ValueType.void with
              kind := .reference "Conference"
              containsNumberHandle := true } }] := by
  have distinct : invitations.forest.MethodsDistinct := by decide +kernel
  have marked : Settings.default.markers.numberHandle ≠ "" := by decide
  obtain ⟨final, rounds, result, each, -⟩ := extract_eq_last marked distinct
  obtain ⟨inner, isThere, isPath, isParams⟩ := each 0 0 (by decide +kernel)
  -- the two rounds, as the stations of the method itself
  have onFriends : handleBase? Settings.default (invitations.forest.station 0 0).function =
      some "friend" := by decide +kernel
  have invites : handleBase? Settings.default
      ((invitations.forest.station 0 0).next Settings.default "friend").function =
        some "conference" := by decide +kernel
  have refers : handleBase? Settings.default
      (((invitations.forest.station 0 0).next Settings.default "friend").next
        Settings.default "conference").function = none := by decide +kernel
  rw [Station.last_of_matched marked onFriends, Station.last_of_matched marked invites,
    Station.last_of_unmatched marked refers] at isPath isParams
  exact ⟨distinct, marked, final, rounds, result, inner, isThere,
    isPath.trans (by decide +kernel), isParams.trans (by decide +kernel)⟩

end NumberHandles

end Bindery

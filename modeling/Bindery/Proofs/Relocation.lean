import Bindery.Proofs.Reach
import Bindery.Proofs.Rest
import Mathlib.Algebra.Order.BigOperators.Group.List
import Mathlib.Algebra.Order.Group.Nat

/-!
# One round of moving methods to number handles

A round makes no function heavier.  A method that it finds loses its first parameter or the marker
in the name of it, and one that keeps both loses the prefix of its class.  So a method that is found
and stays as heavy as it was has nothing left to lose: the marker is empty, the method is exempt and
its name no longer starts with that of its class.  The next round finds it again.
-/

namespace Bindery

variable {settings : Settings} {draft final : Draft} {before after forest : Forest}
  {id : FunctionId} {c : ClassId}

/-! ## Texts -/

namespace Text

theorem length_of_dropPrefix? {text pattern rest : String}
    (found : dropPrefix? text pattern = some rest) :
    text.length = pattern.length + rest.length := by
  obtain ⟨kept, isKept, rfl⟩ := Option.map_eq_some_iff.1 found
  rw [← String.length_toList, Chars.dropPrefix?_eq_some isKept, List.length_append,
    String.length_toList, String.length_ofList]

theorem exists_dropPrefix? {text pattern : String} (starts : startsWith text pattern = true) :
    ∃ rest, dropPrefix? text pattern = some rest := by
  rw [startsWith] at starts
  refine ⟨String.ofList (text.toList.drop pattern.toList.length), ?_⟩
  rw [dropPrefix?, Chars.dropPrefix?, if_pos starts]
  rfl

theorem dropSuffix?_empty (text : String) : dropSuffix? text "" = some text := by
  simp [dropSuffix?, Chars.dropSuffix?]

end Text

/-! ## Weights -/

namespace Function

theorem weight_rename (function : Function) (name : String) :
    (function.rename name).weight + function.name.length = function.weight + name.length := by
  simp only [weight, rename]
  induction function.params with
  | nil => exact Nat.add_comm _ _
  | cons argument rest ih =>
      simp only [List.foldr_cons]
      omega

theorem weight_dropParameter {function : Function} {first : Argument} {rest : List Argument}
    (leading : function.params = first :: rest) :
    (function.dropParameter 0).weight < function.weight := by
  simp only [weight, dropParameter, leading, List.eraseIdx_cons_zero, List.foldr_cons]
  omega

theorem weight_mapParameter {function : Function} {first : Parameter} {rest : List Argument}
    {change : Parameter → Parameter} (leading : function.params = .plain first :: rest) :
    (function.mapParameter 0 change).weight + first.name.length =
      function.weight + (change first).name.length := by
  simp only [weight, mapParameter, leading, List.modify_zero_cons, List.foldr_cons,
    Argument.mapPlain, Argument.name]
  omega

end Function

namespace NumberHandles

theorem weight_eq_sum (forest : Forest) :
    weight forest =
      ((List.range forest.functionCount).map fun id => (forest.functionAt id).weight).sum := by
  have functions : (List.range forest.functionCount).map forest.functionAt = forest.functions := by
    apply List.ext_getElem
    · simp [Forest.functionCount]
    · intro id _ present
      simp [Forest.functionAt, present]
  have summed (functions : List Function) :
      functions.foldr (fun function rest => function.weight + rest) 0 =
        (functions.map (·.weight)).sum := by
    induction functions with
    | nil => rfl
    | cons function rest ih => rw [List.foldr_cons, ih, List.map_cons, List.sum_cons]
  rw [weight, summed, ← functions, List.map_map]
  rfl

section Compared

variable (counted : after.functionCount = before.functionCount)
  (each : ∀ id < before.functionCount,
    (after.functionAt id).weight ≤ (before.functionAt id).weight)

include counted each

/-- A forest whose functions became no heavier, and one of them lighter, is lighter. -/
theorem weight_lt (present : id < before.functionCount)
    (lighter : (after.functionAt id).weight < (before.functionAt id).weight) :
    weight after < weight before := by
  rw [weight_eq_sum, weight_eq_sum, counted]
  apply List.sum_lt_sum
  · exact fun id member => each id (List.mem_range.1 member)
  · exact ⟨id, List.mem_range.2 present, lighter⟩

end Compared

end NumberHandles

/-! ## Stripping class prefixes -/

namespace Forest

/-- A change that leaves a missing function as it is needs no function to be there. -/
theorem functionAt_modifyFunction_of_default {change : Function → Function}
    (fixes : change default = default) :
    (forest.modifyFunction id change).functionAt id = change (forest.functionAt id) := by
  rcases Nat.lt_or_ge id forest.functionCount with present | missing
  · exact functionAt_modifyFunction_self present
  · have gone : forest.functions.length ≤ id := missing
    have goneAfter : (forest.modifyFunction id change).functions.length ≤ id := by
      simpa [modifyFunction] using gone
    rw [functionAt, functionAt, List.getElem?_eq_none gone, List.getElem?_eq_none goneAfter]
    exact fixes.symm

end Forest

namespace Hoisting

variable {classes : List ClassId} {ids : List FunctionId}

theorem stripPrefix_default (className : String) : stripPrefix className default = default := by
  apply stripPrefix_eq
  cases prefixed : Text.startsWith (default : Function).name (classPrefix className) with
  | false => rfl
  | true =>
      obtain ⟨rest, found⟩ := Text.exists_dropPrefix? prefixed
      have spelled := Text.length_of_dropPrefix? found
      rw [classPrefix, String.length_append, show (default : Function).name.length = 0 from rfl,
        show "_".length = 1 from rfl] at spelled
      omega

/-- A loop over different methods of one class strips each of them and changes nothing else. -/
theorem foldl_stripPrefix (different : ids.Nodup)
    (ends : ids.foldl (fun draft id =>
      draft.modifyFunction id (stripPrefix (draft.forest.className c))) draft = final) :
    final.forest = draft.forest.withFunctions final.forest.functions ∧
      final.forest.functionCount = draft.forest.functionCount ∧
      ∀ id, final.forest.functionAt id =
        if id ∈ ids then stripPrefix (draft.forest.className c) (draft.forest.functionAt id)
        else draft.forest.functionAt id := by
  induction ids generalizing draft with
  | nil => exact ⟨ends ▸ rfl, ends ▸ rfl, fun id => ends ▸ rfl⟩
  | cons first rest ih =>
      obtain ⟨fresh, different⟩ := List.nodup_cons.1 different
      rw [List.foldl_cons] at ends
      obtain ⟨frame, counted, each⟩ := ih different ends
      rw [Draft.forest_modifyFunction] at frame counted each
      refine ⟨frame, counted.trans (Forest.functionCount_modifyFunction _ _ _), fun id => ?_⟩
      rw [each]
      by_cases same : id = first
      · subst same
        rw [if_neg fresh, if_pos List.mem_cons_self,
          Forest.functionAt_modifyFunction_of_default (stripPrefix_default _)]
      · rw [Forest.functionAt_modifyFunction_of_ne same]
        simp only [List.mem_cons, same, false_or]
        rfl

/-- What becomes of the functions when class prefixes are taken off: each method of one of the
classes loses the prefix of its class, and no other function is changed. -/
theorem stripClassPrefixes_spec (different : classes.Nodup)
    (distinct : draft.forest.MethodsDistinct)
    (ends : stripClassPrefixes classes draft = final) :
    final.forest = draft.forest.withFunctions final.forest.functions ∧
      final.forest.functionCount = draft.forest.functionCount ∧
      (∀ c ∈ classes, ∀ id ∈ draft.forest.methods c, final.forest.functionAt id =
        stripPrefix (draft.forest.className c) (draft.forest.functionAt id)) ∧
      ∀ id, (∀ c ∈ classes, id ∉ draft.forest.methods c) →
        final.forest.functionAt id = draft.forest.functionAt id := by
  induction classes generalizing draft with
  | nil => exact ⟨ends ▸ rfl, ends ▸ rfl, by simp, fun id _ => ends ▸ rfl⟩
  | cons first rest ih =>
      obtain ⟨fresh, different⟩ := List.nodup_cons.1 different
      rw [stripClassPrefixes, List.foldl_cons] at ends
      generalize stripped : (draft.forest.methods first).foldl (fun draft id =>
        draft.modifyFunction id (stripPrefix (draft.forest.className first))) draft = next at ends
      obtain ⟨frame, counted, each⟩ := foldl_stripPrefix (distinct.nodup first) stripped
      have sameMethods (c : ClassId) : next.forest.methods c = draft.forest.methods c := by
        rw [frame]
        rfl
      have sameName (c : ClassId) : next.forest.className c = draft.forest.className c := by
        rw [frame]
        rfl
      obtain ⟨frameRest, countedRest, strips, others⟩ :=
        ih different (distinct.of_methods_eq sameMethods) ends
      refine ⟨?_, countedRest.trans counted, ?_, ?_⟩
      · rw [frameRest, frame]
        rfl
      · intro c member id isMethod
        -- A method belongs to one class, so that the turns of other classes leave it as it is.
        rcases List.mem_cons.1 member with rfl | later
        · rw [others id, each, if_pos isMethod]
          intro other isOther isTwice
          rw [sameMethods] at isTwice
          exact fresh (distinct.unique isMethod isTwice ▸ isOther)
        · rw [strips c later id (sameMethods c ▸ isMethod), sameName, each, if_neg]
          exact fun isTwice => fresh (distinct.unique isTwice isMethod ▸ later)
      · intro id absent
        rw [others id, each, if_neg (absent first List.mem_cons_self)]
        intro c later
        rw [sameMethods]
        exact absent c (List.mem_cons_of_mem _ later)

theorem weight_stripPrefix_le (className : String) (function : Function) :
    (stripPrefix className function).weight ≤ function.weight := by
  have renamed := function.weight_rename
    ((Text.dropPrefix? function.name (classPrefix className)).getD function.name)
  cases found : Text.dropPrefix? function.name (classPrefix className) with
  | none =>
      rw [found, Option.getD_none] at renamed
      rw [stripPrefix, found, Option.getD_none]
      omega
  | some bare =>
      rw [found, Option.getD_some] at renamed
      have spelled := Text.length_of_dropPrefix? found
      rw [stripPrefix, found, Option.getD_some]
      omega

theorem weight_stripPrefix_lt {className : String} {function : Function}
    (prefixed : Text.startsWith function.name (classPrefix className) = true) :
    (stripPrefix className function).weight < function.weight := by
  obtain ⟨bare, found⟩ := Text.exists_dropPrefix? prefixed
  have renamed := function.weight_rename bare
  have spelled := Text.length_of_dropPrefix? found
  have ends : 0 < (classPrefix className).length := by
    rw [classPrefix, String.length_append]
    exact Nat.succ_pos _
  rw [stripPrefix, found, Option.getD_some]
  omega

theorem weight_stripClassPrefixes_le (different : classes.Nodup)
    (distinct : draft.forest.MethodsDistinct)
    (ends : stripClassPrefixes classes draft = final) (id : FunctionId) :
    (final.forest.functionAt id).weight ≤ (draft.forest.functionAt id).weight := by
  obtain ⟨-, -, strips, others⟩ := stripClassPrefixes_spec different distinct ends
  by_cases isMethod : ∃ c ∈ classes, id ∈ draft.forest.methods c
  · obtain ⟨c, isClass, isMethod⟩ := isMethod
    rw [strips c isClass id isMethod]
    exact weight_stripPrefix_le _ _
  · rw [others id fun c isClass inClass => isMethod ⟨c, isClass, inClass⟩]

end Hoisting

/-! ## One round -/

namespace NumberHandles

variable {found : Match} {rest matching : List Match}

/-- What a match makes of its function, before class prefixes are taken off. -/
def relocated (settings : Settings) (forest : Forest) (found : Match) : Function :=
  let function := forest.functionAt found.function
  if settings.isHandleExempt function.name (forest.className found.c) then
    function.mapParameter 0 (asReference found.base)
  else function.dropParameter 0

theorem lt_functionCount_of_handleBase? {base : String}
    (matched : handleBase? settings (forest.functionAt id) = some base) :
    id < forest.functionCount := by
  by_contra beyond
  have missing : forest.functions.length ≤ id := Nat.le_of_not_lt beyond
  rw [Forest.functionAt, List.getElem?_eq_none missing] at matched
  cases matched

theorem functionAt_relocate
    (remain : MatchesRemain settings (found :: rest) draft.forest) :
    (relocate settings draft found).forest.functionAt found.function =
      relocated settings draft.forest found := by
  obtain ⟨-, matched⟩ := remain.2 found List.mem_cons_self
  obtain ⟨first, others, leading, -⟩ := handleBase?_eq_some matched
  have present := lt_functionCount_of_handleBase? matched
  rw [forest_relocate rfl leading rfl, relocated]
  split
  · exact Forest.functionAt_modifyFunction_self present
  · exact Forest.functionAt_descend_self present

/-- A match leaves a method in its class, unless it is the one that matched and is not exempt. -/
theorem mem_methods_relocate (remain : MatchesRemain settings (found :: rest) draft.forest)
    (stays : id = found.function → settings.isHandleExempt
      (draft.forest.functionAt found.function).name (draft.forest.className found.c) = true)
    (isMethod : id ∈ draft.forest.methods c) :
    id ∈ (relocate settings draft found).forest.methods c := by
  obtain ⟨first, others, leading, -⟩ :=
    handleBase?_eq_some (remain.2 found List.mem_cons_self).2
  rw [forest_relocate rfl leading rfl]
  split
  · exact isMethod
  · rename_i moves
    apply Forest.mem_methods_descend
    · exact fun same => moves (stays same)
    · rw [Forest.methods, Forest.classAt_requireClass]
      exact isMethod

/-- A loop over matches makes of the functions that matched what each match makes of its function,
leaves the exempt ones in their classes, and leaves all other functions alone. -/
theorem foldl_relocate
    (remain : MatchesRemain settings matching draft.forest)
    (ends : matching.foldl (relocate settings) draft = final) :
    (∀ found ∈ matching,
      final.forest.functionAt found.function = relocated settings draft.forest found ∧
        (settings.isHandleExempt (draft.forest.functionAt found.function).name
            (draft.forest.className found.c) = true →
          found.function ∈ final.forest.methods found.c)) ∧
      ∀ id, id ∉ matching.map (·.function) →
        final.forest.functionAt id = draft.forest.functionAt id ∧
          ∀ c, id ∈ draft.forest.methods c → id ∈ final.forest.methods c := by
  induction matching generalizing draft with
  | nil =>
      subst ends
      exact ⟨by simp, fun id _ => ⟨rfl, fun c isMethod => isMethod⟩⟩
  | cons first rest ih =>
      obtain ⟨moves, remains⟩ := moves_relocate remain
      have fresh := (List.nodup_cons.1 remain.1).1
      have changed := functionAt_relocate remain
      obtain ⟨each, others⟩ := ih remains ends
      constructor
      · intro found member
        rcases List.mem_cons.1 member with rfl | later
        · obtain ⟨same, stays⟩ := others found.function fresh
          refine ⟨same.trans changed, fun exempt => stays found.c ?_⟩
          exact mem_methods_relocate remain (fun _ => exempt) (remain.2 found member).1
        · have different : found.function ≠ first.function := fun same =>
            fresh (List.mem_map.2 ⟨found, later, same⟩)
          -- What an earlier match did to its own function is nothing to this one.
          have spared : Forest.Spares found.function draft.forest
              (relocate settings draft first).forest := spares_relocate different
          have sameName : (relocate settings draft first).forest.className found.c =
              draft.forest.className found.c :=
            moves.hierarchy_extends.name_eq
              (Forest.lt_size_of_mem_methods (remain.2 found member).1)
          have result := each found later
          rw [relocated, spared.function, sameName] at result
          exact result
      · intro id absent
        obtain ⟨different, absent⟩ := List.ne_and_not_mem_of_not_mem_cons absent
        obtain ⟨same, stays⟩ := others id absent
        refine ⟨same.trans (spares_relocate different).function, fun c isMethod => stays c ?_⟩
        exact mem_methods_relocate remain (fun same => absurd same different) isMethod

/-- A reference is named like the number handle without its marker. -/
theorem weight_asReference {function : Function} {base : String}
    (matched : handleBase? settings function = some base) :
    (function.mapParameter 0 (asReference base)).weight +
      settings.markers.numberHandle.length = function.weight := by
  obtain ⟨first, rest, leading, isBase⟩ := handleBase?_eq_some matched
  have spelled : first.name.length = base.length + settings.markers.numberHandle.length := by
    rw [Text.dropSuffix?_eq_some isBase, String.length_append]
  have referred : (function.mapParameter 0 (asReference base)).weight + first.name.length =
      function.weight + base.length := Function.weight_mapParameter leading
  omega

theorem weight_dropParameter {function : Function} {base : String}
    (matched : handleBase? settings function = some base) :
    (function.dropParameter 0).weight < function.weight := by
  obtain ⟨first, rest, leading, -⟩ := handleBase?_eq_some matched
  exact Function.weight_dropParameter leading

section Matched

variable (matched :
  handleBase? settings (before.functionAt found.function) = some found.base)

include matched

theorem weight_relocated_le :
    (relocated settings before found).weight ≤ (before.functionAt found.function).weight := by
  rw [relocated]
  split
  · have shortened := weight_asReference matched
    omega
  · exact (weight_dropParameter matched).le

/-- A match shortens its function, unless the function is exempt and the marker empty. -/
theorem exempt_of_weight_le
    (heavy : (before.functionAt found.function).weight ≤
      (relocated settings before found).weight) :
    settings.markers.numberHandle = "" ∧ settings.isHandleExempt
      (before.functionAt found.function).name (before.className found.c) = true := by
  rw [relocated] at heavy
  split at heavy
  · rename_i exempt
    have shortened := weight_asReference matched
    exact ⟨String.length_eq_zero_iff.1 (by omega), exempt⟩
  · have shortened := weight_dropParameter matched
    omega

end Matched

/-- A method that every round finds again: the marker is empty, so that any plain parameter in
front counts as a number handle and keeps its name, and the method must not move. -/
structure Stuck (settings : Settings) (forest : Forest) (c : ClassId) (id : FunctionId) : Prop where
  unmarked : settings.markers.numberHandle = ""
  isMethod : id ∈ forest.methods c
  leading : ∃ first rest, (forest.functionAt id).params = .plain first :: rest
  exempt : settings.isHandleExempt (forest.functionAt id).name (forest.className c) = true
  unprefixed : Text.startsWith (forest.functionAt id).name
    (Hoisting.classPrefix (forest.className c)) = false

section Round

variable {next : Draft} {again : Bool} (distinct : draft.forest.MethodsDistinct)
  (ends : round settings draft = (next, again))

include distinct ends

/-- A round relocates what matches and then takes the class prefixes off all methods. -/
theorem exists_relocated_of_round :
    ∃ moved, (findMatches settings draft.forest).foldl (relocate settings) draft = moved ∧
      moved.forest.MethodsDistinct ∧ draft.forest.hierarchy.Extends moved.forest.hierarchy ∧
      Hoisting.stripClassPrefixes moved.forest.allClasses moved = next ∧
      again = !(findMatches settings draft.forest).isEmpty := by
  obtain ⟨stripped, found⟩ := Prod.mk.inj ends
  have moves := moves_relocateMethods settings distinct
  have distinctMoved := methodsDistinct_of_moves
    (moves.mono (by simp [roundKinds, Set.insert_subset_iff])) distinct
  exact ⟨_, rfl, distinctMoved, moves.hierarchy_extends, stripped, found.symm⟩

theorem weight_round_le (id : FunctionId) :
    (next.forest.functionAt id).weight ≤ (draft.forest.functionAt id).weight := by
  obtain ⟨moved, relocates, distinctMoved, -, strips, -⟩ := exists_relocated_of_round distinct ends
  have remain : MatchesRemain settings _ draft.forest := matchesRemain_findMatches distinct
  obtain ⟨each, others⟩ := foldl_relocate remain relocates
  refine (Hoisting.weight_stripClassPrefixes_le moved.forest.hierarchy.nodup_all distinctMoved
    strips id).trans ?_
  by_cases isFound : id ∈ (findMatches settings draft.forest).map (·.function)
  · obtain ⟨found, member, rfl⟩ := List.mem_map.1 isFound
    rw [(each found member).1]
    exact weight_relocated_le (remain.2 found member).2
  · rw [(others id isFound).1]

/-- An exempt method stays where it is, as a method that takes a reference, and loses the prefix of
its class. -/
theorem round_of_exempt (member : found ∈ findMatches settings draft.forest)
    (exempt : settings.isHandleExempt (draft.forest.functionAt found.function).name
      (draft.forest.className found.c) = true) :
    next.forest.className found.c = draft.forest.className found.c ∧
      found.function ∈ next.forest.methods found.c ∧
      next.forest.functionAt found.function =
        Hoisting.stripPrefix (draft.forest.className found.c)
          ((draft.forest.functionAt found.function).mapParameter 0 (asReference found.base)) := by
  obtain ⟨moved, relocates, distinctMoved, grows, strips, -⟩ :=
    exists_relocated_of_round distinct ends
  obtain ⟨becomes, stays⟩ :=
    (foldl_relocate (matchesRemain_findMatches distinct) relocates).1 found member
  have isThere := stays exempt
  have sameName : moved.forest.className found.c = draft.forest.className found.c :=
    grows.name_eq (Forest.lt_size_of_mem_methods (mem_findMatches_iff.1 member).1)
  obtain ⟨frame, -, stripped, -⟩ := Hoisting.stripClassPrefixes_spec
    moved.forest.hierarchy.nodup_all distinctMoved strips
  have isClass := Hierarchy.mem_all_iff.2 (Forest.lt_size_of_mem_methods isThere)
  refine ⟨?_, ?_, ?_⟩
  · rw [← sameName, frame]
    rfl
  · rw [frame]
    exact isThere
  · rw [stripped found.c isClass found.function isThere, becomes, relocated, if_pos exempt,
      sameName]

/-- Where a method that matched is no lighter after the round, it is stuck. -/
theorem stuck_of_weight_le (member : found ∈ findMatches settings draft.forest)
    (heavy : (draft.forest.functionAt found.function).weight ≤
      (next.forest.functionAt found.function).weight) :
    Stuck settings draft.forest found.c found.function := by
  obtain ⟨moved, relocates, distinctMoved, -, strips, -⟩ := exists_relocated_of_round distinct ends
  obtain ⟨isMethod, matched⟩ := mem_findMatches_iff.1 member
  have becomes :=
    ((foldl_relocate (matchesRemain_findMatches distinct) relocates).1 found member).1
  have stripped := Hoisting.weight_stripClassPrefixes_le moved.forest.hierarchy.nodup_all
    distinctMoved strips found.function
  obtain ⟨unmarked, exempt⟩ := exempt_of_weight_le matched (becomes ▸ heavy.trans stripped)
  obtain ⟨first, rest, leading, -⟩ := handleBase?_eq_some matched
  refine ⟨unmarked, isMethod, ⟨first, rest, leading⟩, exempt, ?_⟩
  -- A class prefix would be taken off in this round, because an exempt method stays where it is.
  cases prefixed : Text.startsWith (draft.forest.functionAt found.function).name
      (Hoisting.classPrefix (draft.forest.className found.c)) with
  | false => rfl
  | true =>
      have lighter : (next.forest.functionAt found.function).weight <
          ((draft.forest.functionAt found.function).mapParameter 0
            (asReference found.base)).weight := by
        rw [(round_of_exempt distinct ends member exempt).2.2]
        exact Hoisting.weight_stripPrefix_lt prefixed
      have shortened := weight_asReference matched
      omega

end Round

/-- A round that finds methods and makes nothing lighter found a stuck one. -/
theorem exists_stuck_of_round {next : Draft} (distinct : draft.forest.MethodsDistinct)
    (ends : round settings draft = (next, true))
    (heavy : ¬weight next.forest < weight draft.forest) :
    ∃ c id, Stuck settings draft.forest c id := by
  obtain ⟨_, -, -, -, -, isFound⟩ := exists_relocated_of_round distinct ends
  have notEmpty : findMatches settings draft.forest ≠ [] := by simpa using isFound.symm
  obtain ⟨found, rest, isFirst⟩ := List.exists_cons_of_ne_nil notEmpty
  have member : found ∈ findMatches settings draft.forest := isFirst ▸ List.mem_cons_self
  have matched := (mem_findMatches_iff.1 member).2
  have counted : next.forest.functionCount = draft.forest.functionCount := by
    have moves := moves_round settings distinct
    rw [ends] at moves
    exact moves.functionCount_eq (by simp [roundKinds, MoveKind.adds])
  refine ⟨found.c, found.function, stuck_of_weight_le distinct ends member ?_⟩
  by_contra lighter
  exact heavy (weight_lt counted (fun id _ => weight_round_le distinct ends id)
    (lt_functionCount_of_handleBase? matched) (Nat.lt_of_not_le lighter))

/-- What is stuck is found by the round and stuck after it. -/
theorem Stuck.round (stuck : Stuck settings draft.forest c id)
    (distinct : draft.forest.MethodsDistinct) :
    ∃ next, round settings draft = (next, true) ∧ Stuck settings next.forest c id := by
  obtain ⟨first, rest, leading⟩ := stuck.leading
  have matched : handleBase? settings (draft.forest.functionAt id) = some first.name := by
    rw [handleBase?, leading, List.head?_cons]
    dsimp only
    rw [stuck.unmarked, Text.dropSuffix?_empty]
  have member : ⟨c, id, first.name⟩ ∈ findMatches settings draft.forest :=
    mem_findMatches_iff.2 ⟨stuck.isMethod, matched⟩
  generalize ends : NumberHandles.round settings draft = result
  obtain ⟨next, again⟩ := result
  obtain ⟨_, -, -, -, -, isFound⟩ := exists_relocated_of_round distinct ends
  obtain ⟨sameName, isThere, changed⟩ := round_of_exempt distinct ends member stuck.exempt
  dsimp only at sameName isThere changed
  have unprefixed : Text.startsWith ((draft.forest.functionAt id).mapParameter 0
      (asReference first.name)).name (Hoisting.classPrefix (draft.forest.className c)) = false :=
    stuck.unprefixed
  rw [Hoisting.stripPrefix_eq unprefixed] at changed
  refine ⟨next, ?_, stuck.unmarked, isThere, ?_, ?_, ?_⟩
  · have found : again = true := by
      rw [isFound, List.isEmpty_eq_false_iff.2 (List.ne_nil_of_mem member)]
      rfl
    rw [found]
  · refine ⟨asReference first.name first, rest, ?_⟩
    rw [changed, Function.mapParameter, leading]
    rfl
  · rw [changed, sameName]
    exact stuck.exempt
  · rw [changed, sameName]
    exact stuck.unprefixed

end NumberHandles

end Bindery

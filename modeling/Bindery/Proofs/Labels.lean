import Bindery.Proofs.Formation
import Bindery.Proofs.Nesting

/-!
# Where properties get their names from

The properties of a class are told by the methods that their getters once were.  Each of them knows
with which header it was formed, and how many headers came after that one, so that its name is what
was left of the name of the method, corrected once for each of these headers.  Two properties are
told apart by their names exactly where no two methods give the same name.
-/

namespace Bindery

variable {settings : Settings} {final : Draft} {forest : Forest} {c : ClassId} {id : FunctionId}

/-! ## Properties and their getters -/

namespace Forest

theorem Sound.nodup_getters (sound : forest.Sound) (c : ClassId) :
    ((forest.classAt c).properties.map (·.getter)).Nodup := by
  rcases Nat.lt_or_ge c forest.hierarchy.size with valid | beyond
  · have accessors : (↑((forest.classAt c).properties.flatMap (·.functions)) :
        Multiset FunctionId) ≤ (forest.classAt c).held := by
      rw [Class.held, add_assoc, add_left_comm]
      exact Multiset.le_add_right _ _
    have nodup : ((forest.classAt c).properties.flatMap (·.functions)).Nodup :=
      Multiset.coe_nodup.1 (Multiset.nodup_of_le (accessors.trans (classHeld_le_held valid))
        sound.once)
    have getters (properties : List Property) :
        (properties.map (·.getter)).Sublist (properties.flatMap (·.functions)) := by
      induction properties with
      | nil => exact .slnil
      | cons property rest ih =>
          exact (ih.trans (List.sublist_append_right _ _)).cons_cons property.getter
    exact (getters _).nodup nodup
  · rw [classAt_of_size_le beyond]
    exact List.nodup_nil

end Forest

namespace Class

variable {content : Class} (getters : (content.properties.map (·.getter)).Nodup)

include getters

theorem eq_of_getter_eq {left right : Property} (isLeft : left ∈ content.properties)
    (isRight : right ∈ content.properties) (same : left.getter = right.getter) : left = right :=
  List.inj_on_of_nodup_map getters isLeft isRight same

/-- The names of properties are distinct exactly when each property is found by its name. -/
theorem nodup_names_iff : (content.properties.map (·.name)).Nodup ↔
    ∀ property ∈ content.properties, content.property? property.name = some property := by
  constructor
  · intro distinct property member
    exact (Hierarchy.find?_key_eq_some_iff distinct).2 ⟨member, rfl⟩
  · intro finds
    refine List.Nodup.map_on (fun left isLeft right isRight same => ?_)
      (List.Nodup.of_map _ getters)
    have found := finds left isLeft
    rw [same, finds right isRight] at found
    exact (Option.some.inj found).symm

end Class

/-- Whether a type is that of what a function returns that returns nothing. -/
def ValueType.isNothing (type : ValueType) : Bool :=
  type.isScalar .void && !type.ctype.isPointer

namespace Accessors

theorem isNothing_getterReturn_iff {function : Function} :
    (getterReturn settings function).type.isNothing = true ↔
      function.ret.type.isNothing = true ∨ function.throws.isSome = true ∧
        function.ret.type.isScalar .bool = true ∧ isGetter settings function = false := by
  rw [getterReturn]
  split
  · rename_i named
    simp [named]
  · rename_i unnamed
    rw [dropSuccess]
    split
    · rename_i drops
      obtain ⟨throws, isBool⟩ := Bool.and_eq_true_iff.1 drops
      refine iff_of_true rfl (.inr ⟨throws, isBool, Bool.eq_false_of_not_eq_true unnamed⟩)
    · rename_i keeps
      refine (or_iff_left ?_).symm
      rintro ⟨throws, isBool, -⟩
      exact keeps (Bool.and_eq_true_iff.2 ⟨throws, isBool⟩)

end Accessors

namespace Conversion

open Accessors Corrections

variable {rootClass : String} {header : HeaderDeclarations} {start : Draft}
  {declarations : DeclarationSet} {result : Result}

/-! ## Whole runs -/

/-- How a getter came to be: the draft is that in which the members of a header were formed, the
getter was a method there and the getter of a property once the header was done, and as many headers
as are told came after that one. -/
inductive FormedFrom (settings : Settings) (headers : List HeaderDeclarations) (c : ClassId)
    (id : FunctionId) : Nat → Draft → Prop
  | intro {front rest : List HeaderDeclarations} {header : HeaderDeclarations} {rootClass : String}
      {origin : Draft} (split : headers = front ++ header :: rest)
      (isRoot : settings.rootClass? header.file = some rootClass)
      (ran : Pass.run (beforeMembers settings rootClass header) (goOn settings front {}) =
        .ok origin)
      (isMethod : id ∈ origin.forest.methods c)
      (becomes : ∃ property ∈ ((goOn settings (front ++ [header]) {}).forest.classAt c).properties,
        property.getter = id) : FormedFrom settings headers c id rest.length origin

/-- The name that the property of a getter has, by the method that the getter was and the number of
headers that came after it. -/
def nameSince (settings : Settings) (c : ClassId) (id : FunctionId) (later : Nat) (origin : Draft) :
    String :=
  (correctedName settings (origin.forest.className c))^[later + 1]
    (propertyName settings (origin.forest.functionAt id))

theorem not_formedFrom_nil {later : Nat} {origin : Draft} :
    ¬FormedFrom settings [] c id later origin := by
  intro formed
  cases formed with
  | intro split => simp at split

theorem FormedFrom.later {later : Nat} {origin : Draft} {done : List HeaderDeclarations}
    (formed : FormedFrom settings done c id later origin) (header : HeaderDeclarations) :
    FormedFrom settings (done ++ [header]) c id (later + 1) origin := by
  cases formed with
  | @intro front rest last rootClass _ split isRoot ran isMethod becomes =>
      have longer : done ++ [header] = front ++ last :: (rest ++ [header]) := by
        rw [split, List.append_assoc, List.cons_append]
      simpa using FormedFrom.intro longer isRoot ran isMethod becomes

section Turn

variable {done : List HeaderDeclarations} (turn : Turn settings done header rootClass start final)

include turn

theorem Turn.goOn_concat : goOn settings (done ++ [header]) {} = final :=
  goOn_eq_of_ok settings (turn.accounted.concat turn.isRoot turn.sound turn.finished).processed

theorem Turn.formedFrom {origin : Draft}
    (ran : Pass.run (beforeMembers settings rootClass header) start = .ok origin)
    (isMethod : id ∈ origin.forest.methods c)
    (becomes : ∃ property ∈ (final.forest.classAt c).properties, property.getter = id) :
    FormedFrom settings (done ++ [header]) c id 0 origin := by
  rw [← turn.goOn_eq] at ran
  rw [← turn.goOn_concat] at becomes
  exact @FormedFrom.intro settings _ c id done [] header rootClass origin rfl turn.isRoot ran
    isMethod becomes

/-- A getter came to be with an earlier header or with the last one. -/
theorem formedFrom_concat_cases {later : Nat} {origin : Draft}
    (formed : FormedFrom settings (done ++ [header]) c id later origin) :
    (∃ earlier, later = earlier + 1 ∧ FormedFrom settings done c id earlier origin) ∨
      later = 0 ∧ Pass.run (beforeMembers settings rootClass header) start = .ok origin ∧
        id ∈ origin.forest.methods c ∧
        ∃ property ∈ (final.forest.classAt c).properties, property.getter = id := by
  cases formed with
  | @intro front rest other otherRoot _ split isRoot ran isMethod becomes =>
      obtain ⟨rfl, rfl, rfl⟩ | ⟨earlier, rfl, rfl⟩ := concat_eq_append_cons split
      · obtain rfl := Option.some.inj (turn.isRoot.symm.trans isRoot)
        rw [turn.goOn_eq] at ran
        rw [turn.goOn_concat] at becomes
        exact .inr ⟨rfl, ran, isMethod, becomes⟩
      · exact .inl ⟨earlier.length, by simp, .intro rfl isRoot ran isMethod becomes⟩

end Turn

/-- What is known of properties after some headers: they are those of the methods that became
getters, with the names that these give them, and the returns of the getters are told as well. -/
structure Labelled (settings : Settings) (headers : List HeaderDeclarations) (forest : Forest) :
    Prop where
  labels : ∀ c id name, (id, name) ∈ forest.labels c ↔
    ∃ later origin, FormedFrom settings headers c id later origin ∧
      name = nameSince settings c id later origin
  told : ∀ c id later origin, FormedFrom settings headers c id later origin →
    forest.className c = origin.forest.className c ∧
      (forest.functionAt id).ret = getterReturn settings (origin.forest.functionAt id)

namespace Labelled

variable {done : List HeaderDeclarations} (labelled : Labelled settings done start.forest)
  (turn : Turn settings done header rootClass start final)

include labelled turn

theorem mem_labels_next {name : String} : (id, name) ∈ final.forest.labels c ↔
    ∃ later origin, FormedFrom settings (done ++ [header]) c id later origin ∧
      name = nameSince settings c id later origin := by
  obtain ⟨course, before⟩ := exists_course_of_ok turn.finished
  have sound := turn.sound
  have sameName {former : String} (isLabel : (id, former) ∈ start.forest.labels c) :
      course.initialized.forest.className c = start.forest.className c :=
    (course.moves_initialized_of_start sound).hierarchy_extends.name_eq
      (Forest.lt_size_of_mem_labels isLabel)
  constructor
  · intro isLabel
    rcases course.label_cases sound isLabel with ⟨former, old, rfl⟩ | ⟨isMethod, rfl, -⟩
    · -- An old name is corrected once more, with the header that comes now.
      obtain ⟨later, origin, formed, rfl⟩ := (labelled.labels c id former).1 old
      refine ⟨later + 1, origin, formed.later header, ?_⟩
      rw [sameName old, (labelled.told c id later origin formed).1, nameSince, nameSince,
        Function.iterate_succ_apply' _ (later + 1)]
    · obtain ⟨property, member, isGetter, -⟩ := Forest.mem_labels_iff.1 isLabel
      exact ⟨0, course.initialized,
        turn.formedFrom before isMethod ⟨property, member, isGetter⟩, rfl⟩
  · rintro ⟨later, origin, formed, rfl⟩
    rcases formedFrom_concat_cases turn formed with
      ⟨earlier, rfl, old⟩ | ⟨rfl, ran, isMethod, property, member, isGetter⟩
    · have isLabel := (labelled.labels c id _).2 ⟨earlier, origin, old, rfl⟩
      have corrected := course.label_final_of_start sound isLabel
      rw [sameName isLabel, (labelled.told c id earlier origin old).1] at corrected
      rw [nameSince, Function.iterate_succ_apply' _ (earlier + 1)]
      exact corrected
    · obtain rfl := Except.ok.inj (before.symm.trans ran)
      have isLabel : (id, property.name) ∈ final.forest.labels c :=
        Forest.mem_labels_iff.2 ⟨property, member, isGetter, rfl⟩
      have isName := (course.label_of_method sound isMethod isLabel).1
      rwa [isName] at isLabel

theorem told_next {later : Nat} {origin : Draft}
    (formed : FormedFrom settings (done ++ [header]) c id later origin) :
    final.forest.className c = origin.forest.className c ∧
      (final.forest.functionAt id).ret = getterReturn settings (origin.forest.functionAt id) := by
  obtain ⟨course, before⟩ := exists_course_of_ok turn.finished
  have sound := turn.sound
  have sameName : final.forest.className c = course.initialized.forest.className c := by
    rw [Forest.className, course.hierarchy_final sound]
    rfl
  rcases formedFrom_concat_cases turn formed with
    ⟨earlier, rfl, old⟩ | ⟨rfl, ran, isMethod, property, member, isGetter⟩
  · obtain ⟨isName, yields⟩ := labelled.told c id earlier origin old
    -- The getter of an old property rests, so that no pass touches what it returns.
    have isLabel := (labelled.labels c id _).2 ⟨earlier, origin, old, rfl⟩
    have rests := sound.rests_of_mem_labels isLabel
    have same := (rests_of_finished sound rests turn.finished).2.function
    have stays : course.initialized.forest.className c = start.forest.className c :=
      (course.moves_initialized_of_start sound).hierarchy_extends.name_eq
        (Forest.lt_size_of_mem_labels isLabel)
    exact ⟨(sameName.trans stays).trans isName, (congrArg Function.ret same).trans yields⟩
  · obtain rfl := Except.ok.inj (before.symm.trans ran)
    have isLabel : (id, property.name) ∈ final.forest.labels c :=
      Forest.mem_labels_iff.2 ⟨property, member, isGetter, rfl⟩
    exact ⟨sameName, (course.label_of_method sound isMethod isLabel).2⟩

theorem next : Labelled settings (done ++ [header]) final.forest where
  labels _ _ _ := labelled.mem_labels_next turn
  told _ _ _ _ formed := labelled.told_next turn formed

end Labelled

theorem labelled_convert {declarations : DeclarationSet} {result : Result}
    (converted : convert settings declarations = .ok result) :
    Labelled settings declarations.headers result.draft.forest :=
  turn_induction (Labelled settings)
    ⟨fun _ _ _ => iff_of_false (fun isLabel => nomatch isLabel)
        fun ⟨_, _, formed, _⟩ => not_formedFrom_nil formed,
      fun _ _ _ _ formed => absurd formed not_formedFrom_nil⟩
    (fun turn labelled => labelled.next turn) converted

/-! ## Names -/

/-- The properties of a class are those of the methods that became getters, and each is named by
what was left of the name of its method, corrected with its own header and with every later one.
No name is looked for before it is given, so the names are distinct, and each property is found by
its own, exactly when no two of these methods give the same name. -/
theorem names_properties_convert (converted : convert settings declarations = .ok result)
    (c : ClassId) :
    (∀ id name, (∃ property ∈ (result.draft.forest.classAt c).properties,
        property.getter = id ∧ property.name = name) ↔
      ∃ later origin, FormedFrom settings declarations.headers c id later origin ∧
        name = nameSince settings c id later origin) ∧
    (((result.draft.forest.classAt c).properties.map (·.name)).Nodup ↔
      ∀ left right earlier later former origin,
        FormedFrom settings declarations.headers c left earlier former →
        FormedFrom settings declarations.headers c right later origin →
        nameSince settings c left earlier former = nameSince settings c right later origin →
        left = right) ∧
    (((result.draft.forest.classAt c).properties.map (·.name)).Nodup ↔
      ∀ property ∈ (result.draft.forest.classAt c).properties,
        (result.draft.forest.classAt c).property? property.name = some property) := by
  have labels (id : FunctionId) (name : String) :=
    Forest.mem_labels_iff.symm.trans ((labelled_convert converted).labels c id name)
  have getters := (sound_convert converted).nodup_getters c
  refine ⟨labels, ⟨?_, ?_⟩, Class.nodup_names_iff getters⟩
  · intro distinct left right earlier later former origin isLeft isRight same
    obtain ⟨first, isFirst, rfl, firstName⟩ := (labels left _).2 ⟨earlier, former, isLeft, rfl⟩
    obtain ⟨second, isSecond, rfl, secondName⟩ := (labels right _).2 ⟨later, origin, isRight, rfl⟩
    rw [List.inj_on_of_nodup_map distinct isFirst isSecond
      (firstName.trans (same.trans secondName.symm))]
  · intro apart
    refine List.Nodup.map_on (fun first isFirst second isSecond same => ?_)
      (List.Nodup.of_map _ getters)
    obtain ⟨earlier, former, isLeft, leftName⟩ := (labels _ _).1 ⟨first, isFirst, rfl, rfl⟩
    obtain ⟨later, origin, isRight, rightName⟩ := (labels _ _).1 ⟨second, isSecond, rfl, rfl⟩
    exact Class.eq_of_getter_eq getters isFirst isSecond
      (apart _ _ _ _ _ _ isLeft isRight (leftName.symm.trans (same.trans rightName)))

/-- A version and an interface that are told by two headers, one after the other. -/
def versionThenInterface : DeclarationSet where
  headers := [
    { file := "tox.h"
      functions := [{ name := "tox_get_version", returnType := { name := "uint32_t" } }] },
    { file := "tox.h"
      functions := [{ name := "tox_interface", returnType := { name := "uint32_t" } }] }]

theorem names_versionThenInterface :
    ∃ result, convert Settings.default versionThenInterface = .ok result ∧
      (∃ later origin,
        FormedFrom Settings.default versionThenInterface.headers 0 0 later origin ∧
          "version" = nameSince Settings.default 0 0 later origin) ∧
      ∀ property ∈ (result.draft.forest.classAt 0).properties,
        (result.draft.forest.classAt 0).property? property.name = some property := by
  obtain ⟨result, converted, known⟩ := exists_converted
    (fun result => (result.draft.forest.classAt 0).properties)
    (show (convert Settings.default versionThenInterface).toOption.map _ =
      some [⟨"version", 0, none, false⟩, ⟨"interface", 1, none, true⟩] by decide +kernel)
  obtain ⟨labels, -, finds⟩ := names_properties_convert converted 0
  have distinct : ((result.draft.forest.classAt 0).properties.map (·.name)).Nodup := by
    rw [known]
    decide
  refine ⟨result, converted, (labels 0 "version").1 ?_, finds.1 distinct⟩
  rw [known]
  exact ⟨_, List.mem_cons_self, rfl, rfl⟩

/-- A version that is told twice, once with the name of a getter. -/
def versionToldTwice : DeclarationSet where
  headers := [{
    file := "tox.h"
    functions := [
      { name := "tox_get_version", returnType := { name := "uint32_t" } },
      { name := "tox_version", returnType := { name := "uint32_t" } }] }]

/-- Both are called `version`, and a search by this name never finds the second. -/
theorem not_nodup_versionToldTwice :
    ∃ result, convert Settings.default versionToldTwice = .ok result ∧
      (result.draft.forest.classAt 0).properties =
        [⟨"version", 0, none, false⟩, ⟨"version", 1, none, true⟩] ∧
      ¬((result.draft.forest.classAt 0).properties.map (·.name)).Nodup ∧
      (result.draft.forest.classAt 0).property? "version" = some ⟨"version", 0, none, false⟩ := by
  obtain ⟨result, converted, known⟩ := exists_converted
    (fun result => (result.draft.forest.classAt 0).properties)
    (show (convert Settings.default versionToldTwice).toOption.map _ =
      some [⟨"version", 0, none, false⟩, ⟨"version", 1, none, true⟩] by decide +kernel)
  refine ⟨result, converted, known, ?_, ?_⟩
  · rw [known]
    decide
  · rw [Class.property?, known]
    rfl

/-! ## Values -/

/-- A property of a finished conversion has no value exactly when the method that became its getter
returned nothing when members were formed, or returned a truth value beside throwing and was not
taken for a getter by its name. -/
theorem isNothing_properties_convert (converted : convert settings declarations = .ok result)
    (c : ClassId) :
    ∀ property ∈ (result.draft.forest.classAt c).properties,
      (∃ later origin,
        FormedFrom settings declarations.headers c property.getter later origin) ∧
      ∀ later origin, FormedFrom settings declarations.headers c property.getter later origin →
        ((result.draft.forest.functionAt property.getter).ret.type.isNothing = true ↔
          (origin.forest.functionAt property.getter).ret.type.isNothing = true ∨
            (origin.forest.functionAt property.getter).throws.isSome = true ∧
              (origin.forest.functionAt property.getter).ret.type.isScalar .bool = true ∧
              isGetter settings (origin.forest.functionAt property.getter) = false) := by
  have labelled := labelled_convert converted
  intro property member
  constructor
  · obtain ⟨later, origin, formed, -⟩ := (labelled.labels c property.getter property.name).1
      (Forest.mem_labels_iff.2 ⟨property, member, rfl, rfl⟩)
    exact ⟨later, origin, formed⟩
  · intro later origin formed
    rw [(labelled.told c property.getter later origin formed).2]
    exact isNothing_getterReturn_iff

/-- An answer that is told without any object, and that may fail to be told. -/
def toxReady : DeclarationSet where
  headers := [{
    file := "tox.h"
    functions := [
      { name := "tox_ready"
        returnType := { name := "bool" }
        parameters := [
          { name := "error", type := { name := "Tox_Err_Ready", isPointer := true } }] }]
    enums := [{ name := "Tox_Err_Ready" }] }]

theorem isNothing_toxReady :
    ∃ result, convert Settings.default toxReady = .ok result ∧
      (result.draft.forest.classAt 0).properties = [⟨"ready", 0, none, true⟩] ∧
      (result.draft.forest.functionAt 0).ret.type.isNothing = true ∧
      ∃ later origin, FormedFrom Settings.default toxReady.headers 0 0 later origin ∧
        ((origin.forest.functionAt 0).ret.type.isNothing = true ∨
          (origin.forest.functionAt 0).throws.isSome = true ∧
            (origin.forest.functionAt 0).ret.type.isScalar .bool = true ∧
            isGetter Settings.default (origin.forest.functionAt 0) = false) := by
  obtain ⟨result, converted, known⟩ := exists_converted
    (fun result => decide (
      (result.draft.forest.classAt 0).properties = [⟨"ready", 0, none, true⟩] ∧
        (result.draft.forest.functionAt 0).ret.type.isNothing = true))
    (show (convert Settings.default toxReady).toOption.map _ = some true by decide +kernel)
  obtain ⟨properties, nothing⟩ := of_decide_eq_true known
  obtain ⟨⟨later, origin, formed⟩, told⟩ := isNothing_properties_convert converted 0
    ⟨"ready", 0, none, true⟩ (properties ▸ List.mem_singleton_self _)
  exact ⟨result, converted, properties, nothing, later, origin, formed,
    (told later origin formed).1 nothing⟩

/-- An action whose name has the marker of getters in the middle of a word. -/
def forgetAll : DeclarationSet where
  headers := [{
    file := "tox.h"
    functions := [
      { name := "tox_forget_all"
        returnType := { name := "void" }
        parameters := [{ name := "tox", type := { name := "Tox", isPointer := true } }] }]
    structs := ["Tox"] }]

/-- The action is taken for the getter of a property, which has no value. -/
theorem isNothing_forgetAll :
    ∃ result, convert Settings.default forgetAll = .ok result ∧
      (result.draft.forest.classAt 0).properties = [⟨"forall", 0, none, false⟩] ∧
      (result.draft.forest.functionAt 0).ret.type.isScalar .void = true ∧
      (result.draft.forest.functionAt 0).ret.type.ctype.isPointer = false := by
  obtain ⟨result, converted, known⟩ := exists_converted
    (fun result => decide (
      (result.draft.forest.classAt 0).properties = [⟨"forall", 0, none, false⟩] ∧
        (result.draft.forest.functionAt 0).ret.type.isScalar .void = true ∧
        (result.draft.forest.functionAt 0).ret.type.ctype.isPointer = false))
    (show (convert Settings.default forgetAll).toOption.map _ = some true by decide +kernel)
  exact ⟨result, converted, of_decide_eq_true known⟩

end Conversion

end Bindery

import Bindery.Proofs.Narrowing

/-!
# Methods that the settings do not ask for

Members are formed by name: an initializer is the method that the settings list for its class, a
getter and its setter have markers in their names, and some names are forced to be those of
properties.  A method that goes by none of these names stays one, under its name.
-/

namespace Bindery

variable {settings : Settings} {draft : Draft} {forest : Forest} {c place : ClassId}
  {id other : FunctionId} {className name : String} {static : Bool}

namespace Text

theorem Chars.infix_replaceFrom {pattern replacement text : List Char}
    (present : pattern <:+: text) :
    replacement <:+: Chars.replaceFrom pattern replacement 0 text := by
  induction text with
  | nil =>
      obtain rfl := List.infix_nil.1 present
      exact List.infix_rfl
  | cons first rest ih =>
      rw [replaceFrom]
      split
      · exact (List.prefix_append _ _).isInfix
      · split
        · exact (List.prefix_append _ _).isInfix
        · rename_i notHere
          rcases List.infix_cons_iff.1 present with isHere | later
          · exact absurd (List.isPrefixOf_iff_prefix.2 isHere) notHere
          · exact List.infix_cons (ih later)

/-- Where something is replaced, the replacement is found afterwards. -/
theorem contains_replaceAll {text pattern : String} (replacement : String)
    (present : contains text pattern = true) :
    contains (replaceAll text pattern replacement) replacement = true := by
  rw [contains_iff] at present ⊢
  rw [replaceAll, String.toList_ofList]
  exact Chars.infix_replaceFrom present

end Text

/-- Whether the settings ask for no method of the name in a class of the name: it has no marker of
accessors, it is not forced into a property, and it does not initialize the class. -/
@[mk_iff]
structure Unclaimed (settings : Settings) (className name : String) : Prop where
  unmarked : Sizing.isAccessorName settings name = false
  unforced : settings.forcedProperties.contains name = false
  uninitialized : settings.defaultInitializers.get? className ≠ some name

instance : Decidable (Unclaimed settings className name) :=
  decidable_of_iff' _ (unclaimed_iff settings className name)

/-- Whether a function is a method of a class of the given name, with the given name and flag. -/
structure Stands (className name : String) (static : Bool) (c : ClassId) (id : FunctionId)
    (forest : Forest) : Prop where
  named : forest.className c = className
  isMethod : id ∈ forest.methods c
  isName : (forest.functionAt id).name = name
  isStatic : (forest.functionAt id).isStatic = static

namespace Stands

/-! ## Changes of a forest -/

/-- Any other function may change in any way. -/
theorem modifyOther (stands : Stands className name static c id forest) (different : id ≠ other)
    (change : Function → Function) :
    Stands className name static c id (forest.modifyFunction other change) := by
  obtain ⟨named, isMethod, isName, isStatic⟩ := stands
  have same := @Forest.functionAt_modifyFunction_of_ne forest other id change different
  rw [← same] at isName isStatic
  exact ⟨named, isMethod, isName, isStatic⟩

/-- The function itself may change if it keeps its name and stays static or not. -/
theorem modifyFunction {change : Function → Function}
    (stands : Stands className name static c id forest)
    (keepsName : (change (forest.functionAt other)).name = (forest.functionAt other).name)
    (keepsFlag : (change (forest.functionAt other)).isStatic =
      (forest.functionAt other).isStatic) :
    Stands className name static c id (forest.modifyFunction other change) := by
  by_cases same : id = other
  · subst same
    obtain ⟨named, isMethod, isName, isStatic⟩ := stands
    rcases forest.functionAt_modifyFunction_or id change with changed | ⟨absent, still⟩
    · exact ⟨named, isMethod, by rw [changed, keepsName, isName],
        by rw [changed, keepsFlag, isStatic]⟩
    · rw [absent] at isName isStatic
      exact ⟨named, isMethod, by rw [still, isName], by rw [still, isStatic]⟩
  · exact stands.modifyOther same change

theorem modifyClass {change : Class → Class} (stands : Stands className name static c id forest)
    (keeps : c = place → ∀ content : Class,
      id ∈ content.methods → id ∈ (change content).methods) :
    Stands className name static c id (forest.modifyClass place change) := by
  refine ⟨stands.named, ?_, stands.isName, stands.isStatic⟩
  by_cases same : c = place
  · exact Forest.mem_methods_modifyClass place change (keeps same) stands.isMethod
  · rw [Forest.methods, Forest.classAt_modifyClass_of_ne same]
    exact stands.isMethod

theorem mem_removeMethod {content : Class} (different : id ≠ other)
    (isMethod : id ∈ content.methods) : id ∈ (content.removeMethod other).methods :=
  (List.mem_erase_of_ne different).2 isMethod

theorem addProperty {property : String} {isStatic : Bool}
    (stands : Stands className name static c id draft.forest) (different : id ≠ other) :
    Stands className name static c id
      (Accessors.addProperty settings draft place other property isStatic).forest := by
  rw [Accessors.forest_addProperty]
  exact (stands.modifyOther different _).modifyClass fun _ _ => mem_removeMethod different

theorem addSetter (stands : Stands className name static c id draft.forest)
    (different : id ≠ other) :
    Stands className name static c id (Accessors.addSetter settings draft place other).forest :=
  (stands.modifyOther different _).modifyClass fun _ _ => mem_removeMethod different

/-- What is named differently is another function. -/
theorem ne_of_name {tell : String → Bool} (stands : Stands className name static c id forest)
    (told : tell name = false) (isOther : tell (forest.functionAt other).name = true) :
    id ≠ other := by
  rintro rfl
  rw [stands.isName, told] at isOther
  cases isOther

/-! ## The forming of members -/

variable (unclaimed : Unclaimed settings className name)

include unclaimed

/-- An initializer is looked for by its name. -/
theorem extractInitializer (stands : Stands className name static c id draft.forest) :
    Stands className name static c id
      (Corrections.extractInitializer settings place draft).forest := by
  rcases Corrections.extractInitializer_cases draft place with
    same | ⟨initializer, method, configured, found, taken⟩
  · rw [same]
    exact stands
  · rw [taken]
    refine stands.modifyClass fun same _ => mem_removeMethod ?_
    subst same
    rw [stands.named] at configured
    have called := Forest.name_of_findMethod? found
    rintro rfl
    rw [stands.isName] at called
    exact unclaimed.uninitialized (called ▸ configured)

/-- A getter and its setter are known by the markers in their names. -/
theorem foldAccessor (stands : Stands className name static c id draft.forest) :
    Stands className name static c id
      (Accessors.foldAccessor settings place other draft).forest := by
  have added {property : String}
      (getter : Accessors.Getter settings (draft.forest.functionAt other) property) :
      Stands className name static c id
        (Accessors.addProperty settings draft place other property false).forest :=
    stands.addProperty
      (stands.ne_of_name unclaimed.unmarked (Bool.or_eq_true_iff.2 (.inl getter.marked)))
  have folding := Accessors.folding_foldAccessor settings place other draft
  generalize Accessors.foldAccessor settings place other draft = folded at folding ⊢
  cases folding with
  | skip => exact stands
  | property getter => exact added getter
  | accessors getter isSetter called single =>
      refine (added getter).addSetter ((added getter).ne_of_name unclaimed.unmarked
        (Bool.or_eq_true_iff.2 (.inr ?_)))
      rw [called]
      exact Text.contains_replaceAll _ getter.marked

theorem foldForced (stands : Stands className name static c id draft.forest) :
    Stands className name static c id (Accessors.foldForced settings place other draft).forest := by
  rw [Accessors.foldForced]
  split
  · rename_i isForced
    exact stands.addProperty (stands.ne_of_name unclaimed.unforced isForced)
  · exact stands

end Stands

end Bindery

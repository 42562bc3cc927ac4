import Bindery.Proofs.Arrivals

/-!
# What moves do to the content of classes

A move changes the content of one class, or of two where a method goes from one to the other, and
it changes it in one of few ways.
-/

namespace Bindery

/-- What a move of a kind does to the content of a class at a place that it changes.  The place
matters for handles, because native ones stand at the top and numbers below. -/
inductive ContentStep (forest : Forest) (place : ClassId) : MoveKind → Class → Class → Prop
  | listen {content : Class} {id : FunctionId} (isNew : id = forest.functionCount) :
      ContentStep forest place .listen content { content.addMethod id with isCallback := true }
  | allocate {content : Class} {id : FunctionId} (isRoot : forest.hierarchy.parent? place = none)
      (vacant : content.holdsObject = true) (isFree : id ∈ forest.free) :
      ContentStep forest place .allocate content (content.withAlloc id)
  | deallocate {content : Class} {id : FunctionId}
      (isRoot : forest.hierarchy.parent? place = none)
      (vacant : content.holdsObject = true) (isFree : id ∈ forest.free) :
      ContentStep forest place .deallocate content (content.withDealloc id)
  | adopt {content : Class} {id : FunctionId} (isFree : id ∈ forest.free) :
      ContentStep forest place .adopt content (content.addMethod id)
  | adoptAll {content : Class} :
      ContentStep forest place .adoptAll content
        { content with methods := content.methods ++ forest.free }
  | leave {content : Class} {id : FunctionId} (isMethod : id ∈ content.methods) :
      ContentStep forest place .descend content (content.removeMethod id)
  | arrive {content : Class} {id : FunctionId} {outer : ClassId} {type : ValueType}
      (isInner : forest.hierarchy.parent? place = some outer)
      (cameFrom : id ∈ forest.methods outer) :
      ContentStep forest place .descend content
        ((NumberHandles.wrapNumber type content).addMethod id)
  | detach {content : Class} {id : FunctionId} (isMethod : id ∈ content.methods) :
      ContentStep forest place .detach content (content.removeMethod id)
  | takeInitializer {content : Class} {id : FunctionId} (isMethod : id ∈ content.methods) :
      ContentStep forest place .takeInitializer content
        { content.removeMethod id with defaultInit := some id }
  | addProperty {content : Class} {id : FunctionId} (isMethod : id ∈ content.methods)
      (name : String) (isStatic : Bool) :
      ContentStep forest place .addProperty content
        { content.removeMethod id with
          properties := content.properties ++ [{ name, getter := id, setter := none, isStatic }] }
  | addSetter {content : Class} {id : FunctionId} {front : List Property} {last : Property}
      (isMethod : id ∈ content.methods) (isLast : content.properties = front ++ [last])
      (vacant : last.setter = none) :
      ContentStep forest place .addSetter content
        { content.removeMethod id with properties := Accessors.setLast id content.properties }
  | renameProperties {content : Class} (names : Table String) :
      ContentStep forest place .renameProperties content
        { content with properties := content.properties.map (Corrections.renameProperty names) }

namespace Forest

variable {forest : Forest} {c inner : ClassId} {id : FunctionId}

/-- A change of one class is seen at that class or nowhere. -/
theorem classAt_modifyClass_or (forest : Forest) (c : ClassId) (change : Class → Class)
    (place : ClassId) :
    (forest.modifyClass c change).classAt place = forest.classAt place ∨
      place = c ∧ (forest.modifyClass c change).classAt place = change (forest.classAt place) := by
  by_cases same : place = c
  · subst same
    by_cases valid : place < forest.hierarchy.size
    · exact .inr ⟨rfl, classAt_modifyClass_self valid⟩
    · left
      have beyond := Nat.le_of_not_lt valid
      rw [classAt_of_size_le beyond, @classAt_of_size_le (forest.modifyClass place change) _ beyond]
  · exact .inl (classAt_modifyClass_of_ne same)

/-- A change of one class is the only change of the contents. -/
theorem classAt_modifyClass_step {kind : MoveKind} {change : Class → Class}
    (step : ContentStep forest c kind (forest.classAt c) (change (forest.classAt c)))
    (place : ClassId) :
    (forest.modifyClass c change).classAt place = forest.classAt place ∨
      ContentStep forest place kind (forest.classAt place)
        ((forest.modifyClass c change).classAt place) := by
  rcases forest.classAt_modifyClass_or c change place with same | ⟨rfl, changed⟩
  · exact .inl same
  · exact .inr (changed ▸ step)

end Forest

variable {settings : Settings} {kind : MoveKind} {before after : Forest}

/-- A move leaves the content of a class as it is or changes it by one step. -/
theorem Move.classAt_step (move : Move settings kind before after) (place : ClassId) :
    after.classAt place = before.classAt place ∨
      ContentStep before place kind (before.classAt place) (after.classAt place) := by
  cases move with
  | @listen _ function name =>
      have isThere := @Hierarchy.snd_require_lt before.hierarchy none name (by simp)
      by_cases same : place = ((before.addFunction function).requireClass none name).2
      · subst same
        right
        rw [Forest.classAt_modifyClass_self isThere, Forest.classAt_requireClass]
        exact .listen rfl
      · left
        rw [Forest.classAt_modifyClass_of_ne same, Forest.classAt_requireClass]
        rfl
  | require name below => exact .inl (Forest.classAt_requireClass _ _ _ _)
  | allocate valid isRoot vacant isFree =>
      exact Forest.classAt_modifyClass_step (.allocate isRoot vacant isFree) place
  | deallocate valid isRoot vacant isFree =>
      exact Forest.classAt_modifyClass_step (.deallocate isRoot vacant isFree) place
  | adopt valid isFree => exact Forest.classAt_modifyClass_step (.adopt isFree) place
  | adoptAll valid => exact Forest.classAt_modifyClass_step .adoptAll place
  -- Two classes change: the method leaves one and arrives in the other.
  | @descend _ c inner id first rest isMethod valid isInner leading marked =>
      have different : c ≠ inner := Nat.ne_of_lt (Hierarchy.parent_lt isInner)
      by_cases isInnerPlace : place = inner
      · subst isInnerPlace
        right
        rw [Forest.classAt_descend_inner isMethod different valid]
        exact .arrive isInner isMethod
      · by_cases isOuterPlace : place = c
        · subst isOuterPlace
          right
          rw [Forest.classAt_descend_outer isMethod different]
          exact .leave isMethod
        · exact .inl (Forest.classAt_descend_of_ne isMethod different _ isOuterPlace isInnerPlace)
  | detach isMethod => exact Forest.classAt_modifyClass_step (.detach isMethod) place
  | takeInitializer isMethod =>
      exact Forest.classAt_modifyClass_step (.takeInitializer isMethod) place
  | addProperty isMethod name isStatic =>
      exact Forest.classAt_modifyClass_step (.addProperty isMethod name isStatic) place
  | addSetter isMethod isLast vacant =>
      exact Forest.classAt_modifyClass_step (.addSetter isMethod isLast vacant) place
  | renameProperties c names =>
      exact Forest.classAt_modifyClass_step (.renameProperties names) place
  | _ => exact .inl rfl

end Bindery

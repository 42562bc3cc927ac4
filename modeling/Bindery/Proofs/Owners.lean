import Bindery.Proofs.Slots

/-!
# The slot of one function

A sound forest has at most one slot for every function.  A function leaves the free list for a slot
of a top class, goes from class to class as a method, and from there it may come to rest in another
slot of its class, which it never leaves.
-/

namespace Bindery

namespace Slot

/-- The class that the slot belongs to. -/
def home? : Slot → Option ClassId
  | free => none
  | method c => some c
  | getter c _ => some c
  | setter c _ => some c
  | alloc c => some c
  | dealloc c => some c
  | defaultInit c => some c
  | detached c => some c

end Slot

/-- How a move of a kind can take a function from slot to slot. -/
inductive SlotStep (hierarchy : Hierarchy) : MoveKind → Slot → Slot → Prop
  | stay (kind : MoveKind) (slot : Slot) : SlotStep hierarchy kind slot slot
  | allocate (c : ClassId) : SlotStep hierarchy .allocate .free (.alloc c)
  | deallocate (c : ClassId) : SlotStep hierarchy .deallocate .free (.dealloc c)
  | adopt (c : ClassId) : SlotStep hierarchy .adopt .free (.method c)
  | adoptAll (c : ClassId) : SlotStep hierarchy .adoptAll .free (.method c)
  | descend {outer inner : ClassId} (isInner : hierarchy.parent? inner = some outer) :
      SlotStep hierarchy .descend (.method outer) (.method inner)
  | detach (c : ClassId) : SlotStep hierarchy .detach (.method c) (.detached c)
  | takeInitializer (c : ClassId) :
      SlotStep hierarchy .takeInitializer (.method c) (.defaultInit c)
  | addProperty (c : ClassId) (name : String) :
      SlotStep hierarchy .addProperty (.method c) (.getter c name)
  | addSetter (c : ClassId) (name : String) :
      SlotStep hierarchy .addSetter (.method c) (.setter c name)
  | renameGetter (c : ClassId) (name renamed : String) :
      SlotStep hierarchy .renameProperties (.getter c name) (.getter c renamed)
  | renameSetter (c : ClassId) (name renamed : String) :
      SlotStep hierarchy .renameProperties (.setter c name) (.setter c renamed)

theorem SlotStep.mono {older newer : Hierarchy} {kind : MoveKind} {old slot : Slot}
    (step : SlotStep older kind old slot) (growth : older.Extends newer) :
    SlotStep newer kind old slot := by
  cases step with
  | descend isInner =>
      apply SlotStep.descend
      rw [growth.parent?_eq (Hierarchy.lt_size_of_parent? isInner)]
      exact isInner
  | _ => constructor

namespace Class

variable {content : Class} {c : ClassId} {id : FunctionId} {slot : Slot}

theorem mem_owners_iff :
    (id, slot) ∈ content.owners c ↔
      (content.alloc? = some id ∧ slot = .alloc c) ∨
      (content.dealloc? = some id ∧ slot = .dealloc c) ∨
      (content.defaultInit = some id ∧ slot = .defaultInit c) ∨
      (∃ property ∈ content.properties,
        property.getter = id ∧ slot = .getter c property.name ∨
        property.setter = some id ∧ slot = .setter c property.name) ∨
      (id ∈ content.methods ∧ slot = .method c) := by
  have handle : (id, slot) ∈ content.handle.toList.flatMap (·.owners c) ↔
      (content.alloc? = some id ∧ slot = .alloc c) ∨
        (content.dealloc? = some id ∧ slot = .dealloc c) := by
    obtain ⟨isCallback, handle, defaultInit, properties, methods⟩ := content
    match handle with
    | none => simp [alloc?, dealloc?]
    | some (.number type) => simp [alloc?, dealloc?, Handle.owners]
    | some (.native alloc dealloc) =>
        simp [alloc?, dealloc?, Handle.owners, eq_comm]
  have property (property : Property) : (id, slot) ∈ property.owners c ↔
      property.getter = id ∧ slot = .getter c property.name ∨
        property.setter = some id ∧ slot = .setter c property.name := by
    simp [Property.owners, eq_comm]
  simp only [owners, List.mem_append, handle, List.mem_flatMap, property]
  simp [or_assoc, eq_comm]

theorem home?_of_mem_owners (owned : (id, slot) ∈ content.owners c) : slot.home? = some c := by
  rcases mem_owners_iff.1 owned with
    ⟨-, rfl⟩ | ⟨-, rfl⟩ | ⟨-, rfl⟩ | ⟨property, -, ⟨-, rfl⟩ | ⟨-, rfl⟩⟩ | ⟨-, rfl⟩ <;> rfl

theorem mem_owners_of_method (member : id ∈ content.methods) :
    (id, .method c) ∈ content.owners c := by
  simp [mem_owners_iff, member]

theorem mem_owners_of_initializer (isInit : content.defaultInit = some id) :
    (id, .defaultInit c) ∈ content.owners c := by
  simp [mem_owners_iff, isInit]

theorem mem_owners_of_property {property : Property} (member : property ∈ content.properties)
    (accesses : property.getter = id ∧ slot = .getter c property.name ∨
      property.setter = some id ∧ slot = .setter c property.name) :
    (id, slot) ∈ content.owners c :=
  mem_owners_iff.2 (.inr (.inr (.inr (.inl ⟨property, member, accesses⟩))))

theorem mem_owners_of_getter {property : Property} (member : property ∈ content.properties) :
    (property.getter, .getter c property.name) ∈ content.owners c :=
  mem_owners_of_property member (.inl ⟨rfl, rfl⟩)

theorem mem_owners_of_setter {property : Property} (member : property ∈ content.properties)
    (isSetter : property.setter = some id) :
    (id, .setter c property.name) ∈ content.owners c :=
  mem_owners_of_property member (.inr ⟨isSetter, rfl⟩)

theorem owners_addMethods (content : Class) (ids : List FunctionId) :
    ({ content with methods := content.methods ++ ids } : Class).owners c =
      content.owners c ++ ids.map (·, .method c) := by
  simp [owners]

theorem owners_addMethod_subset (content : Class) (id : FunctionId) :
    (content.addMethod id).owners c ⊆ (id, .method c) :: content.owners c := by
  intro entry owned
  have split : entry ∈ content.owners c ++ [id].map (·, .method c) := by
    rw [← owners_addMethods]
    exact owned
  rcases List.mem_append.1 split with old | isNew
  · exact List.mem_cons_of_mem _ old
  · exact List.mem_cons.2 (.inl (List.mem_singleton.1 isNew))

/-- A class that keeps its handle and gets no method can only have got an initializer or a
property. -/
theorem mem_owners_or (content : Class) {changed : Class} (owned : (id, slot) ∈ changed.owners c)
    (handle : changed.handle = content.handle) (methods : changed.methods ⊆ content.methods) :
    (id, slot) ∈ content.owners c ∨
      (changed.defaultInit = some id ∧ slot = .defaultInit c) ∨
      ∃ property ∈ changed.properties,
        property.getter = id ∧ slot = .getter c property.name ∨
        property.setter = some id ∧ slot = .setter c property.name := by
  have alloc : changed.alloc? = content.alloc? := RootSlot.alloc.get_of_handle handle
  have dealloc : changed.dealloc? = content.dealloc? := RootSlot.dealloc.get_of_handle handle
  rw [mem_owners_iff] at owned ⊢
  rw [alloc, dealloc] at owned
  rcases owned with isAlloc | isDealloc | isInit | isProperty | ⟨isMethod, isSlot⟩
  · exact .inl (.inl isAlloc)
  · exact .inl (.inr (.inl isDealloc))
  · exact .inr (.inl isInit)
  · exact .inr (.inr isProperty)
  · exact .inl (.inr (.inr (.inr (.inr ⟨methods isMethod, isSlot⟩))))

theorem owners_removeMethod_subset (content : Class) (id : FunctionId) :
    (content.removeMethod id).owners c ⊆ content.owners c := by
  intro ⟨other, slot⟩ owned
  rcases mem_owners_or content owned rfl List.erase_subset with
    old | ⟨isInit, rfl⟩ | ⟨property, member, accesses⟩
  · exact old
  · exact mem_owners_of_initializer isInit
  · exact mem_owners_of_property member accesses

/-- A method that becomes the initializer takes that slot, and nothing else moves. -/
theorem owners_takeInitializer_subset (content : Class) (id : FunctionId) :
    Class.owners { content.removeMethod id with defaultInit := some id } c ⊆
      (id, .defaultInit c) :: content.owners c := by
  intro ⟨other, slot⟩ owned
  rcases mem_owners_or content owned rfl List.erase_subset with
    old | ⟨isInit, rfl⟩ | ⟨property, member, accesses⟩
  · exact List.mem_cons_of_mem _ old
  · obtain rfl := Option.some.inj isInit
    exact List.mem_cons_self
  · exact List.mem_cons_of_mem _ (mem_owners_of_property member accesses)

/-- A method that becomes a property is its getter, and nothing else moves. -/
theorem owners_appendProperty_subset (content : Class) (id : FunctionId) (name : String)
    (isStatic : Bool) :
    Class.owners
        { content.removeMethod id with
          properties := content.properties ++ [{ name, getter := id, setter := none, isStatic }] }
        c ⊆ (id, .getter c name) :: content.owners c := by
  intro ⟨other, slot⟩ owned
  rcases mem_owners_or content owned rfl List.erase_subset with
    old | ⟨isInit, rfl⟩ | ⟨property, member, accesses⟩
  · exact List.mem_cons_of_mem _ old
  · exact List.mem_cons_of_mem _ (mem_owners_of_initializer isInit)
  · rcases List.mem_append.1 member with old | isLast
    · exact List.mem_cons_of_mem _ (mem_owners_of_property old accesses)
    · obtain rfl := List.mem_singleton.1 isLast
      rcases accesses with ⟨rfl, rfl⟩ | ⟨isSetter, -⟩
      · exact List.mem_cons_self
      · cases isSetter

/-- A method that becomes the setter of the last property takes that slot, and nothing else
moves. -/
theorem owners_setLast_subset (content : Class) (id : FunctionId) {front : List Property}
    {last : Property} (isLast : content.properties = front ++ [last]) :
    Class.owners
        { content.removeMethod id with properties := Accessors.setLast id content.properties } c ⊆
      (id, .setter c last.name) :: content.owners c := by
  intro ⟨other, slot⟩ owned
  rcases mem_owners_or content owned rfl List.erase_subset with
    old | ⟨isInit, rfl⟩ | ⟨property, member, accesses⟩
  · exact List.mem_cons_of_mem _ old
  · exact List.mem_cons_of_mem _ (mem_owners_of_initializer isInit)
  · rw [isLast, Accessors.setLast_append] at member
    rcases List.mem_append.1 member with old | isNew
    · have wasThere : property ∈ content.properties := isLast ▸ List.mem_append_left _ old
      exact List.mem_cons_of_mem _ (mem_owners_of_property wasThere accesses)
    · have wasLast : last ∈ content.properties :=
        isLast ▸ List.mem_append_right _ (List.mem_singleton_self last)
      obtain rfl := List.mem_singleton.1 isNew
      rcases accesses with isGetter | ⟨isSetter, rfl⟩
      · exact List.mem_cons_of_mem _ (mem_owners_of_property wasLast (.inl isGetter))
      · obtain rfl := Option.some.inj isSetter
        exact List.mem_cons_self

theorem owners_wrapNumber (content : Class) (type : ValueType) :
    (NumberHandles.wrapNumber type content).owners c = content.owners c := by
  obtain ⟨isCallback, handle, defaultInit, properties, methods⟩ := content
  cases handle <;> rfl

end Class

namespace RootSlot

/-- The slot of a class that a function in the root slot has. -/
def ofClass : RootSlot → ClassId → Slot
  | alloc, c => .alloc c
  | dealloc, c => .dealloc c

variable {root : RootSlot} {content : Class} {c : ClassId} {id : FunctionId}

/-- Filling a slot brings in one function and nothing else. -/
theorem owners_fill_subset (root : RootSlot) (id : FunctionId) (content : Class) :
    (root.fill id content).owners c ⊆ (id, root.ofClass c) :: content.owners c := by
  intro entry owned
  obtain ⟨isCallback, handle, defaultInit, properties, methods⟩ := content
  rw [List.mem_cons]
  match root, handle with
  | .alloc, none => simpa [fill, Class.withAlloc, Class.owners, Handle.owners, ofClass] using owned
  | .dealloc, none =>
      simpa [fill, Class.withDealloc, Class.owners, Handle.owners, ofClass] using owned
  | .alloc, some (.native left right) =>
      simp only [fill, Class.withAlloc, Class.owners, Handle.owners, ofClass, Option.toList_some,
        List.flatMap_singleton, List.map_singleton, List.mem_append, List.mem_singleton,
        or_assoc] at owned ⊢
      exact owned.imp_right .inr
  | .dealloc, some (.native left right) =>
      simp only [fill, Class.withDealloc, Class.owners, Handle.owners, ofClass, Option.toList_some,
        List.flatMap_singleton, List.map_singleton, List.mem_append, List.mem_singleton,
        or_assoc] at owned ⊢
      rcases owned with isAlloc | isNew | other
      · exact .inr (.inl isAlloc)
      · exact .inl isNew
      · exact .inr (.inr (.inr other))
  | .alloc, some (.number type) => exact .inr owned
  | .dealloc, some (.number type) => exact .inr owned

end RootSlot

namespace Forest

variable {forest : Forest} {c : ClassId} {id : FunctionId} {slot : Slot}

theorem mem_owners_of_class (owned : (id, slot) ∈ (forest.classAt c).owners c) :
    (id, slot) ∈ forest.owners := by
  have valid : c < forest.hierarchy.size := by
    by_contra beyond
    rw [classAt_of_size_le (Nat.le_of_not_lt beyond)] at owned
    cases owned
  apply List.mem_append_right
  exact List.mem_flatMap.2 ⟨c, Hierarchy.mem_all_iff.2 valid, owned⟩

theorem mem_owners_of_method (isMethod : id ∈ forest.methods c) :
    (id, .method c) ∈ forest.owners :=
  mem_owners_of_class (Class.mem_owners_of_method isMethod)

theorem mem_owners_iff :
    (id, slot) ∈ forest.owners ↔
      (id ∈ forest.free ∧ slot = .free) ∨
      (∃ c, (id, c) ∈ forest.detached ∧ slot = .detached c) ∨
      ∃ c, (id, slot) ∈ (forest.classAt c).owners c := by
  constructor
  · intro owned
    simp only [owners, List.mem_append, List.mem_map, List.mem_flatMap, Prod.mk.injEq] at owned
    obtain (⟨other, isFree, rfl, isSlot⟩ | ⟨⟨other, c⟩, isDetached, rfl, isSlot⟩) | ⟨c, -, owned⟩ :=
      owned
    · exact .inl ⟨isFree, isSlot.symm⟩
    · exact .inr (.inl ⟨c, isDetached, isSlot.symm⟩)
    · exact .inr (.inr ⟨c, owned⟩)
  · rintro (⟨isFree, rfl⟩ | ⟨c, isDetached, rfl⟩ | ⟨c, owned⟩)
    · simp [owners, isFree]
    · simp [owners, isDetached]
    · exact mem_owners_of_class owned

theorem mem_owners_of_free (isFree : id ∈ forest.free) : (id, .free) ∈ forest.owners :=
  mem_owners_iff.2 (.inl ⟨isFree, rfl⟩)

theorem mem_owners_of_detached (isDetached : (id, c) ∈ forest.detached) :
    (id, .detached c) ∈ forest.owners :=
  mem_owners_iff.2 (.inr (.inl ⟨c, isDetached, rfl⟩))

theorem mem_held_iff : id ∈ forest.held ↔ ∃ slot, (id, slot) ∈ forest.owners := by
  rw [← coe_owners, Multiset.mem_coe, List.mem_map]
  simp

/-- A function in a slot is there. -/
theorem Sound.lt_of_mem_owners (sound : forest.Sound) (owned : (id, slot) ∈ forest.owners) :
    id < forest.functionCount :=
  sound.present id (mem_held_iff.2 ⟨slot, owned⟩)

/-- A sound forest has one slot for a function. -/
theorem Sound.slot_unique (sound : forest.Sound) {left right : Slot}
    (inLeft : (id, left) ∈ forest.owners) (inRight : (id, right) ∈ forest.owners) :
    left = right := by
  have once := sound.once
  rw [← coe_owners, Multiset.coe_nodup] at once
  have same := List.inj_on_of_nodup_map once inLeft inRight rfl
  exact congrArg Prod.snd same

/-- The class of a slot that is in use is there. -/
theorem Sound.home_lt (sound : forest.Sound) (owned : (id, slot) ∈ forest.owners)
    (isHome : slot.home? = some c) : c < forest.hierarchy.size := by
  rcases mem_owners_iff.1 owned with ⟨-, rfl⟩ | ⟨home, isDetached, rfl⟩ | ⟨home, owned⟩
  · cases isHome
  · obtain rfl := Option.some.inj isHome
    exact sound.homes _ isDetached
  · obtain rfl := Option.some.inj ((Class.home?_of_mem_owners owned).symm.trans isHome)
    by_contra beyond
    rw [classAt_of_size_le (Nat.le_of_not_lt beyond)] at owned
    cases owned

end Forest

namespace ContentStep

variable {forest : Forest} {place : ClassId} {kind : MoveKind} {content changed : Class}
  {id : FunctionId} {slot : Slot}

/-- A change that brings one function in, as far as the slots of the class are concerned. -/
theorem slot_of_subset {new : FunctionId} {gained : Slot}
    (isContent : forest.classAt place = content)
    (brings : changed.owners place ⊆ (new, gained) :: content.owners place)
    (came : new = id → ∃ old, (id, old) ∈ forest.owners ∧ SlotStep forest.hierarchy kind old gained)
    (owned : (id, slot) ∈ changed.owners place) :
    ∃ old, (id, old) ∈ forest.owners ∧ SlotStep forest.hierarchy kind old slot := by
  rcases List.mem_cons.1 (brings owned) with same | stays
  · cases same
    exact came rfl
  · exact ⟨slot, Forest.mem_owners_of_class (isContent ▸ stays), .stay kind slot⟩

/-- Where the functions come from that a changed class has. -/
theorem slot_step (step : ContentStep forest place kind content changed)
    (isContent : forest.classAt place = content) (present : id < forest.functionCount)
    (owned : (id, slot) ∈ changed.owners place) :
    ∃ old, (id, old) ∈ forest.owners ∧ SlotStep forest.hierarchy kind old slot := by
  have inForest {old : Slot} (owned : (id, old) ∈ content.owners place) :
      (id, old) ∈ forest.owners :=
    Forest.mem_owners_of_class (isContent ▸ owned)
  have stays (owned : (id, slot) ∈ content.owners place) :
      ∃ old, (id, old) ∈ forest.owners ∧ SlotStep forest.hierarchy kind old slot :=
    ⟨slot, inForest owned, .stay kind slot⟩
  cases step with
  | @listen _ new isNew =>
      refine slot_of_subset isContent (Class.owners_addMethod_subset content new)
        (fun same => ?_) owned
      rw [← same, isNew] at present
      exact absurd present (Nat.lt_irrefl _)
  | @allocate _ new isRoot vacant isFree =>
      refine slot_of_subset isContent (RootSlot.owners_fill_subset .alloc new content) ?_ owned
      rintro rfl
      exact ⟨.free, Forest.mem_owners_of_free isFree, .allocate place⟩
  | @deallocate _ new isRoot vacant isFree =>
      refine slot_of_subset isContent (RootSlot.owners_fill_subset .dealloc new content) ?_ owned
      rintro rfl
      exact ⟨.free, Forest.mem_owners_of_free isFree, .deallocate place⟩
  | @adopt _ new isFree =>
      refine slot_of_subset isContent (Class.owners_addMethod_subset content new) ?_ owned
      rintro rfl
      exact ⟨.free, Forest.mem_owners_of_free isFree, .adopt place⟩
  | adoptAll =>
      rw [Class.owners_addMethods] at owned
      rcases List.mem_append.1 owned with old | isNew
      · exact stays old
      · obtain ⟨new, isFree, same⟩ := List.mem_map.1 isNew
        cases same
        exact ⟨.free, Forest.mem_owners_of_free isFree, .adoptAll place⟩
  | leave isMethod => exact stays (Class.owners_removeMethod_subset _ _ owned)
  | @arrive _ new outer type isInner cameFrom =>
      have brings := @Class.owners_addMethod_subset place
        (NumberHandles.wrapNumber type content) new
      rw [Class.owners_wrapNumber] at brings
      refine slot_of_subset isContent brings ?_ owned
      rintro rfl
      exact ⟨.method outer, Forest.mem_owners_of_method cameFrom, .descend isInner⟩
  | detach isMethod => exact stays (Class.owners_removeMethod_subset _ _ owned)
  | @takeInitializer _ new isMethod =>
      refine slot_of_subset isContent (Class.owners_takeInitializer_subset content new) ?_ owned
      rintro rfl
      exact ⟨.method place, inForest (Class.mem_owners_of_method isMethod), .takeInitializer place⟩
  | @addProperty _ new isMethod name isStatic =>
      refine slot_of_subset isContent
        (Class.owners_appendProperty_subset content new name isStatic) ?_ owned
      rintro rfl
      exact ⟨.method place, inForest (Class.mem_owners_of_method isMethod), .addProperty place name⟩
  | @addSetter _ new front last isMethod isLast vacant =>
      refine slot_of_subset isContent (Class.owners_setLast_subset content new isLast) ?_ owned
      rintro rfl
      exact ⟨.method place, inForest (Class.mem_owners_of_method isMethod),
        .addSetter place last.name⟩
  | renameProperties names =>
      rcases Class.mem_owners_or content owned rfl (List.Subset.refl _) with
        old | ⟨isInit, rfl⟩ | ⟨property, member, accesses⟩
      · exact stays old
      · exact stays (Class.mem_owners_of_initializer isInit)
      · obtain ⟨original, isOriginal, rfl⟩ := List.mem_map.1 member
        rcases accesses with ⟨rfl, rfl⟩ | ⟨isSetter, rfl⟩
        · exact ⟨.getter place original.name, inForest (Class.mem_owners_of_getter isOriginal),
            .renameGetter place _ _⟩
        · exact ⟨.setter place original.name,
            inForest (Class.mem_owners_of_setter isOriginal isSetter), .renameSetter place _ _⟩

end ContentStep

variable {settings : Settings} {kind : MoveKind} {kinds : Set MoveKind} {before after : Forest}
  {id : FunctionId} {slot : Slot}

namespace Move

theorem mem_free (move : Move settings kind before after) (present : id < before.functionCount)
    (isFree : id ∈ after.free) : id ∈ before.free := by
  cases move with
  | intake function =>
      rcases List.mem_append.1 isFree with old | isNew
      · exact old
      · rw [List.mem_singleton.1 isNew] at present
        exact absurd present (Nat.lt_irrefl _)
  | allocate | deallocate | adopt => exact List.mem_of_mem_filter isFree
  | adoptAll => cases isFree
  | descend isMethod valid isInner leading marked =>
      rw [Forest.descend_eq isMethod _ (Nat.ne_of_lt (Hierarchy.parent_lt isInner))] at isFree
      exact isFree
  | _ => exact isFree

theorem mem_detached {c : ClassId} (move : Move settings kind before after)
    (isDetached : (id, c) ∈ after.detached) :
    (id, c) ∈ before.detached ∨ kind = .detach ∧ id ∈ before.methods c := by
  cases move with
  | detach isMethod =>
      rcases List.mem_append.1 isDetached with old | isNew
      · exact .inl old
      · cases List.mem_singleton.1 isNew
        exact .inr ⟨rfl, isMethod⟩
  | descend isMethod valid isInner leading marked =>
      rw [Forest.descend_eq isMethod _ (Nat.ne_of_lt (Hierarchy.parent_lt isInner))] at isDetached
      exact .inl isDetached
  | _ => exact .inl isDetached

/-- The slot that a function has after a move comes from one that it had before. -/
theorem slot_step (move : Move settings kind before after) (present : id < before.functionCount)
    (owned : (id, slot) ∈ after.owners) :
    ∃ old, (id, old) ∈ before.owners ∧ SlotStep before.hierarchy kind old slot := by
  rcases Forest.mem_owners_iff.1 owned with ⟨isFree, rfl⟩ | ⟨c, isDetached, rfl⟩ | ⟨c, inClass⟩
  · have wasFree := move.mem_free present isFree
    exact ⟨.free, Forest.mem_owners_of_free wasFree, .stay kind .free⟩
  · rcases move.mem_detached isDetached with old | ⟨rfl, isMethod⟩
    · exact ⟨.detached c, Forest.mem_owners_of_detached old, .stay kind _⟩
    · exact ⟨.method c, Forest.mem_owners_of_method isMethod, .detach c⟩
  · rcases move.classAt_step c with same | step
    · rw [same] at inClass
      exact ⟨slot, Forest.mem_owners_of_class inClass, .stay kind slot⟩
    · exact step.slot_step rfl present inClass

end Move

namespace Moves

/-- What every allowed change of slots preserves holds of all slots of a function after any number
of moves. -/
theorem slot_induction (Fits : Hierarchy → Slot → Prop) (moves : Moves settings kinds before after)
    (sound : before.Sound) (present : id < before.functionCount)
    (start : ∀ slot, (id, slot) ∈ before.owners → Fits before.hierarchy slot)
    (grow : ∀ {older newer slot}, older.Extends newer →
      (∀ c, slot.home? = some c → c < older.size) → Fits older slot → Fits newer slot)
    (step : ∀ {hierarchy kind old slot}, kind ∈ kinds → SlotStep hierarchy kind old slot →
      Fits hierarchy old → Fits hierarchy slot) :
    ∀ slot, (id, slot) ∈ after.owners → Fits after.hierarchy slot := by
  have kept := moves.preserves
    (fun forest => id < forest.functionCount ∧
      ∀ slot, (id, slot) ∈ forest.owners → Fits forest.hierarchy slot)
    sound ⟨present, start⟩
    (fun {kind first second} allowed move sound ⟨present, fits⟩ => by
      refine ⟨Nat.lt_of_lt_of_le present move.functionCount_le, fun slot owned => ?_⟩
      obtain ⟨old, wasOwned, changes⟩ := move.slot_step present owned
      have stillFits : Fits second.hierarchy old :=
        grow move.hierarchy_extends (fun c => sound.home_lt wasOwned) (fits old wasOwned)
      exact step allowed (changes.mono move.hierarchy_extends) stillFits)
  exact kept.2.2

end Moves

end Bindery

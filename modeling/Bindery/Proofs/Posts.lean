import Bindery.Proofs.Nesting
import Bindery.Proofs.Placements

/-!
# The posts of free functions

Hoisting goes through the free functions three times, and each time it changes classes and takes
functions off the list.  Still, where a function goes is settled by its own declaration: its post is
a slot of a top class, a place among the methods of one, or, for all the others, a place among the
static methods of the root class.  What a top class ends up with is what it had and what its name
was posted to, in the order of the free list.
-/

namespace Bindery

variable {settings : Settings} {structs : List String} {rootClass name : String}
  {draft : Draft} {before middle after forest : Forest} {id : FunctionId}
  {ids done : List FunctionId}

/-! ## Top classes by name -/

namespace Forest

/-- The top class of the name, which is empty as long as nobody asked for it. -/
def topClass (forest : Forest) (name : String) : Class :=
  (forest.hierarchy.find? none name).elim {} forest.classAt

theorem topClass_of_find? {c : ClassId} (found : forest.hierarchy.find? none name = some c) :
    forest.topClass name = forest.classAt c := by
  rw [topClass, found]
  rfl

theorem rootsHold_iff :
    forest.RootsHold ↔ ∀ name, (forest.topClass name).holdsObject = true := by
  constructor
  · intro roots name
    cases found : forest.hierarchy.find? none name with
    | none =>
        rw [topClass, found]
        rfl
    | some c =>
        rw [topClass_of_find? found]
        exact roots c (Hierarchy.parent?_of_mem_children (Hierarchy.find?_eq_some_iff.1 found).1)
  · intro holds c isRoot
    by_cases valid : c < forest.hierarchy.size
    · have member : c ∈ forest.hierarchy.children none :=
        isRoot ▸ Hierarchy.mem_children_parent? valid
      rw [← topClass_of_find? (Hierarchy.find?_eq_some_iff.2 ⟨member, rfl⟩)]
      exact holds _
    · rw [classAt_of_size_le (Nat.le_of_not_lt valid)]
      rfl

end Forest

namespace Hierarchy

variable {hierarchy : Hierarchy}

theorem find?_require_self (hierarchy : Hierarchy) (name : String) :
    (hierarchy.require none name).1.find? none name = some (hierarchy.require none name).2 := by
  have place : (hierarchy.require none name).1.places[(hierarchy.require none name).2]? =
      some { parent := none, name } := getElem?_require name (by simp)
  exact find?_eq_some_iff.2 ⟨mem_children_iff.2 ⟨_, place, rfl⟩, name_require name (by simp)⟩

theorem find?_require_of_ne {other : String} (different : other ≠ name) :
    (hierarchy.require none name).1.find? none other = hierarchy.find? none other := by
  cases found : hierarchy.find? none name with
  | some c => rw [require_of_find? found]
  | none =>
      have fresh : { parent := none, name } ∉ hierarchy.places := by simpa [find?] using found
      rw [find?, find?, places_require_of_not_mem fresh (by simp)]
      simp [List.idxOf?, List.findIdx?_append, Ne.symm different]

end Hierarchy

namespace Forest

theorem topClass_eq_classAt_require (forest : Forest) (name : String) :
    forest.topClass name = forest.classAt (forest.requireClass none name).2 := by
  cases found : forest.hierarchy.find? none name with
  | some c =>
      rw [topClass_of_find? found, requireClass_of_find? found]
  | none =>
      have added : (forest.requireClass none name).2 = forest.hierarchy.size := by
        change (forest.hierarchy.require none name).2 = _
        unfold Hierarchy.require
        split
        · rename_i c isThere
          cases found.symm.trans isThere
        · rw [dif_pos (by simp)]
      rw [topClass, found, added, classAt_of_size_le (Nat.le_refl _)]
      rfl

/-- The forest after a change of the top class of the name, which is added if it is missing. -/
def modifyRequired (forest : Forest) (name : String) (change : Class → Class) : Forest :=
  (forest.requireClass none name).1.modifyClass (forest.requireClass none name).2 change

/-- Only the top class of the name is changed. -/
theorem topClass_modifyRequired (forest : Forest) (changed name : String)
    (change : Class → Class) :
    (forest.modifyRequired changed change).topClass name =
      if changed = name then change (forest.topClass name) else forest.topClass name := by
  generalize isRequired : forest.requireClass none changed = required
  have found : required.1.hierarchy.find? none changed = some required.2 :=
    isRequired ▸ forest.hierarchy.find?_require_self changed
  have valid : required.2 < required.1.hierarchy.size :=
    isRequired ▸ Hierarchy.snd_require_lt _ (by simp)
  have contents (c : ClassId) : required.1.classAt c = forest.classAt c :=
    isRequired ▸ forest.classAt_requireClass none changed c
  rw [modifyRequired, isRequired]
  change (required.1.hierarchy.find? none name).elim {}
    (required.1.modifyClass required.2 change).classAt = _
  by_cases same : changed = name
  · subst same
    rw [found, if_pos rfl, topClass_eq_classAt_require, isRequired, ← contents]
    exact classAt_modifyClass_self valid
  · have sameFind : required.1.hierarchy.find? none name = forest.hierarchy.find? none name :=
      isRequired ▸ Hierarchy.find?_require_of_ne (Ne.symm same)
    rw [if_neg same, sameFind, topClass]
    cases isThere : forest.hierarchy.find? none name with
    | none => rfl
    | some c =>
        have different : c ≠ required.2 := by
          intro isClass
          have named := (Hierarchy.find?_eq_some_iff.1 (sameFind.trans isThere)).2
          rw [isClass, (Hierarchy.find?_eq_some_iff.1 found).2] at named
          exact same named
        exact (classAt_modifyClass_of_ne different).trans (contents c)

theorem classAt_modifyRequired_of_inner {c : ClassId} (changed : String)
    (isInner : forest.hierarchy.parent? c ≠ none) (change : Class → Class) :
    (forest.modifyRequired changed change).classAt c = forest.classAt c := by
  have growth := forest.hierarchy.extends_require none changed
  have different : c ≠ (forest.requireClass none changed).2 := by
    rintro rfl
    exact isInner (growth.isRoot (Hierarchy.parent?_require _ (by simp)))
  calc (forest.modifyRequired changed change).classAt c
    _ = (forest.requireClass none changed).1.classAt c := classAt_modifyClass_of_ne different
    _ = forest.classAt c := forest.classAt_requireClass none changed c

/-- Functions that are changed, and some of them once more, are like functions changed once. -/
theorem functions_mapFunctions_filter {first second both : Function → Function}
    {again : FunctionId → Bool}
    (isMiddle : middle.functions = (forest.mapFunctions ids first).functions)
    (same : ∀ id ∈ ids, both (forest.functionAt id) =
      if again id then second (first (forest.functionAt id)) else first (forest.functionAt id)) :
    (middle.mapFunctions (ids.filter again) second).functions =
      (forest.mapFunctions ids both).functions := by
  apply List.ext_getElem?
  intro id
  rw [getElem?_mapFunctions, isMiddle, getElem?_mapFunctions, getElem?_mapFunctions]
  cases found : forest.functions[id]? with
  | none => rfl
  | some function =>
      have isFunction : forest.functionAt id = function := by
        rw [functionAt, found, Option.getD_some]
      by_cases isListed : id ∈ ids
      · have changed := same id isListed
        rw [isFunction] at changed
        simp [isListed, changed]
      · simp [isListed]

end Forest

namespace Hoisting

/-! ## Posts -/

/-- What a function is to the class of a known struct. -/
inductive Role where
  | slot (slot : RootSlot)
  | member
  deriving DecidableEq

/-- A role in the top class of a name. -/
structure Post where
  role : Role
  className : String
  deriving DecidableEq

namespace Role

/-- The class with a function in the role. -/
def receive (role : Role) (id : FunctionId) (content : Class) : Class :=
  match role with
  | .slot which => which.fill id content
  | .member => content.addMethod id

/-- The function as it is in the role: without the struct that it takes, unless it makes it. -/
def dress (role : Role) (settings : Settings) : Function → Function :=
  match role with
  | .slot .alloc => makeAllocator settings
  | .slot .dealloc => makeDeallocator settings
  | .member => (·.dropParameter 0)

end Role

/-- An allocator has a post in the class that it returns. -/
def allocatorPost? (structs : List String) (settings : Settings) (function : Function) :
    Option Post :=
  if isAllocator structs settings function then
    some { role := .slot .alloc, className := function.ret.type.name }
  else none

/-- A function that takes a known struct first has a post in the class of the struct. -/
def structPost? (structs : List String) (settings : Settings) (function : Function) :
    Option Post :=
  (structParameter? structs function).map fun className =>
    { role := if isDeallocatorName settings function.name then .slot .dealloc else .member
      className }

/-- The post of a function, if it has one.  To make a struct comes before taking one. -/
def post? (structs : List String) (settings : Settings) (function : Function) : Option Post :=
  (allocatorPost? structs settings function).or (structPost? structs settings function)

/-! ## What a class receives -/

/-- What hoisting has no use for in a class. -/
def unhoisted (content : Class) : Bool × Option FunctionId × List Property :=
  (content.isCallback, content.defaultInit, content.properties)

theorem methods_fill (slot : RootSlot) (id : FunctionId) (content : Class) :
    (slot.fill id content).methods = content.methods := by
  obtain ⟨isCallback, handle, defaultInit, properties, methods⟩ := content
  match handle with
  | none => cases slot <;> rfl
  | some (.native _ _) => cases slot <;> rfl
  | some (.number _) => cases slot <;> rfl

theorem unhoisted_fill (slot : RootSlot) (id : FunctionId) (content : Class) :
    unhoisted (slot.fill id content) = unhoisted content := by
  obtain ⟨isCallback, handle, defaultInit, properties, methods⟩ := content
  match handle with
  | none => cases slot <;> rfl
  | some (.native _ _) => cases slot <;> rfl
  | some (.number _) => cases slot <;> rfl

namespace Role

variable {content : Class}

theorem holdsObject_receive (role : Role) (vacant : content.holdsObject = true) :
    (role.receive id content).holdsObject = true := by
  cases role with
  | slot slot => exact slot.holdsObject_fill vacant
  | member => exact vacant

theorem unhoisted_receive (role : Role) :
    unhoisted (role.receive id content) = unhoisted content := by
  cases role with
  | slot slot => exact unhoisted_fill slot id content
  | member => rfl

theorem methods_receive (role : Role) :
    (role.receive id content).methods =
      content.methods ++ if role = .member then [id] else [] := by
  cases role with
  | slot slot => simp [receive, methods_fill]
  | member => simp [receive, Class.addMethod]

theorem get_receive (slot : RootSlot) (role : Role) (vacant : content.holdsObject = true) :
    slot.get (role.receive id content) =
      if role = .slot slot then some id else slot.get content := by
  cases role with
  | member => exact slot.get_of_handle rfl
  | slot filled =>
      by_cases isSlot : filled = slot
      · simp [receive, isSlot, slot.get_fill_self vacant]
      · obtain rfl : slot = filled.other := by
          cases slot <;> cases filled <;> first | rfl | exact absurd rfl isSlot
        simp [receive, isSlot, filled.get_fill_other]

end Role

/-! ## One pass over the free functions -/

/-- The forest after one free function has gone to its post. -/
def settle (settings : Settings) (forest : Forest) (id : FunctionId) (post : Post) : Forest :=
  ((forest.modifyRequired post.className (post.role.receive id)).takeFree id).modifyFunction id
    (post.role.dress settings)

theorem topClass_settle (forest : Forest) (id : FunctionId) (post : Post) :
    (settle settings forest id post).topClass name =
      if post.className = name then post.role.receive id (forest.topClass name)
      else forest.topClass name :=
  forest.topClass_modifyRequired post.className name (post.role.receive id)

theorem classAt_settle_of_inner {c : ClassId} (post : Post)
    (isInner : forest.hierarchy.parent? c ≠ none) :
    (settle settings forest id post).classAt c = forest.classAt c :=
  Forest.classAt_modifyRequired_of_inner post.className isInner (post.role.receive id)

/-- The function as it is after a pass that knows of the given posts only. -/
def dressed (posts : Function → Option Post) (settings : Settings) (function : Function) :
    Function :=
  (posts function).elim function fun post => post.role.dress settings function

/-- The functions of a list that have the given post, or none. -/
def posted (posts : Function → Option Post) (forest : Forest) (ids : List FunctionId)
    (post : Option Post) : List FunctionId :=
  ids.filter fun id => posts (forest.functionAt id) = post

theorem posted_concat (posts : Function → Option Post) (post : Option Post) :
    posted posts forest (ids ++ [id]) post =
      posted posts forest ids post ++ if posts (forest.functionAt id) = post then [id] else [] := by
  rw [posted, List.filter_append, ← posted]
  by_cases isPosted : posts (forest.functionAt id) = post <;> simp [isPosted]

/-- What a pass has done to a forest once it is through with some of the functions. -/
structure Settled (posts : Function → Option Post) (settings : Settings) (before : Forest)
    (done : List FunctionId) (after : Forest) : Prop where
  functions : after.functions = (before.mapFunctions done (dressed posts settings)).functions
  free : after.free = before.free.filter fun id =>
    id ∉ done || (posts (before.functionAt id)).isNone
  methods : ∀ name, (after.topClass name).methods =
    (before.topClass name).methods ++ posted posts before done (some ⟨.member, name⟩)
  slots : ∀ slot : RootSlot, ∀ name, slot.get (after.topClass name) =
    (posted posts before done (some ⟨.slot slot, name⟩)).getLast?.or
      (slot.get (before.topClass name))
  others : ∀ name, unhoisted (after.topClass name) = unhoisted (before.topClass name)
  roots : after.RootsHold
  inner : ∀ c, before.hierarchy.parent? c ≠ none → after.classAt c = before.classAt c
  grows : before.hierarchy.Extends after.hierarchy
  beside : after.detached = before.detached ∧ after.enums = before.enums ∧
    after.exceptions = before.exceptions

namespace Settled

variable {posts more : Function → Option Post}

theorem start (roots : before.RootsHold) : Settled posts settings before [] before where
  functions := by rw [Forest.mapFunctions_nil]
  free := by simp
  methods := by simp [posted]
  slots := by simp [posted]
  others := fun _ => rfl
  roots := roots
  inner := fun _ _ => rfl
  grows := .refl _
  beside := ⟨rfl, rfl, rfl⟩

/-- A function without a post stays as it is, and so does one that had no turn yet. -/
theorem functionAt_eq (settled : Settled posts settings before done after)
    (kept : id ∈ done → posts (before.functionAt id) = none) :
    after.functionAt id = before.functionAt id := by
  rw [Forest.functionAt, settled.functions, ← Forest.functionAt]
  apply Forest.functionAt_mapFunctions_of_eq
  intro member
  rw [dressed, kept member]
  rfl

/-- A function without a post is left where it is. -/
theorem pass (settled : Settled posts settings before done after) (later : id ∉ done)
    (noPost : posts (after.functionAt id) = none) :
    Settled posts settings before (done ++ [id]) after := by
  have unchanged : after.functionAt id = before.functionAt id :=
    settled.functionAt_eq fun member => absurd member later
  have undressed : after.modifyFunction id (dressed posts settings) = after :=
    Forest.modifyFunction_of_eq (by rw [dressed, noPost]; rfl)
  rw [unchanged] at noPost
  constructor
  case functions =>
    rw [Forest.mapFunctions_concat later, Forest.modifyFunction, ← settled.functions]
    exact (congrArg Forest.functions undressed).symm
  case free =>
    rw [settled.free]
    apply List.filter_congr
    intro other _
    by_cases isId : other = id <;> simp [isId, noPost]
  case methods =>
    intro name
    simp [settled.methods, posted_concat, noPost]
  case slots =>
    intro slot name
    simp [settled.slots, posted_concat, noPost]
  case others => exact settled.others
  case roots => exact settled.roots
  case inner => exact settled.inner
  case grows => exact settled.grows
  case beside => exact settled.beside

/-- A function that had no turn yet goes to its post. -/
theorem assign (settled : Settled posts settings before done forest) (later : id ∉ done)
    {post : Post} (isPosted : posts (forest.functionAt id) = some post) :
    Settled posts settings before (done ++ [id]) (settle settings forest id post) := by
  -- The turns before were those of other functions, so its post is the one it had at the start.
  have unchanged : forest.functionAt id = before.functionAt id :=
    settled.functionAt_eq fun member => absurd member later
  have dresses : forest.modifyFunction id (dressed posts settings) =
      forest.modifyFunction id (post.role.dress settings) :=
    Forest.modifyFunction_congr (by rw [dressed, isPosted]; rfl)
  rw [unchanged] at isPosted
  have vacant := Forest.rootsHold_iff.1 settled.roots
  obtain ⟨role, className⟩ := post
  constructor
  case functions =>
    rw [Forest.mapFunctions_concat later, Forest.modifyFunction, ← settled.functions]
    exact (congrArg Forest.functions dresses).symm
  case free =>
    change forest.free.filter (· != id) = _
    rw [settled.free, List.filter_filter]
    apply List.filter_congr
    intro other _
    by_cases isId : other = id <;> simp [isId, isPosted]
  case methods =>
    intro name
    rw [topClass_settle, posted_concat, ← List.append_assoc, ← settled.methods]
    by_cases here : className = name
    · rw [if_pos here, Role.methods_receive]
      by_cases isMember : role = .member <;> simp [here, isMember, isPosted]
    · simp [here, isPosted]
  case slots =>
    intro slot name
    -- A slot keeps the last function that is posted to it, which is the one whose turn it is.
    rw [topClass_settle, posted_concat, List.getLast?_append, Option.or_assoc, ← settled.slots]
    by_cases here : className = name
    · rw [if_pos here, Role.get_receive slot role (vacant name)]
      by_cases isSlot : role = .slot slot <;> simp [here, isSlot, isPosted]
    · simp [here, isPosted]
  case others =>
    intro name
    rw [topClass_settle]
    split
    · rw [Role.unhoisted_receive, settled.others]
    · exact settled.others name
  case roots =>
    rw [Forest.rootsHold_iff]
    intro name
    rw [topClass_settle]
    split
    · exact Role.holdsObject_receive role (vacant name)
    · exact vacant name
  case inner =>
    intro c isInner
    rw [classAt_settle_of_inner _ fun isRoot => isInner (settled.grows.isRoot isRoot),
      settled.inner c isInner]
  case grows => exact settled.grows.trans (forest.hierarchy.extends_require none className)
  case beside => exact settled.beside

/-- A loop settles what each of its steps settles. -/
theorem foldl {step : Draft → FunctionId → Draft}
    (turn : ∀ draft id, draft.forest.RootsHold → (step draft id).forest =
      (posts (draft.forest.functionAt id)).elim draft.forest (settle settings draft.forest id))
    (different : (done ++ ids).Nodup) (settled : Settled posts settings before done draft.forest) :
    Settled posts settings before (done ++ ids) (ids.foldl step draft).forest := by
  induction ids generalizing done draft with
  | nil =>
      rw [List.append_nil]
      exact settled
  | cons id rest ih =>
      have later : id ∉ done := fun member =>
        (List.nodup_append'.1 different).2.2 member List.mem_cons_self
      -- The post is read off the forest as it is at the turn, where the function has not changed.
      have next : Settled posts settings before (done ++ [id]) (step draft id).forest := by
        rw [turn draft id settled.roots]
        cases isPosted : posts (draft.forest.functionAt id) with
        | none => exact settled.pass later isPosted
        | some post => exact settled.assign later isPosted
      rw [List.append_cons] at different ⊢
      exact ih different next

/-- After a pass over all free functions, those without a post are free. -/
theorem free_eq (settled : Settled posts settings before before.free after) :
    after.free = posted posts before before.free none := by
  rw [settled.free, posted]
  apply List.filter_congr
  intro id isFree
  cases posts (before.functionAt id) <;> simp [isFree]

/-- In a second pass, those have a post that have one there and had none in the first pass. -/
theorem posted_after (settled : Settled posts settings before before.free middle)
    (post : Option Post) : posted more middle middle.free post = before.free.filter fun id =>
      posts (before.functionAt id) = none ∧ more (before.functionAt id) = post := by
  have unchanged : posted more middle middle.free post =
      (posted posts before before.free none).filter fun id =>
        more (before.functionAt id) = post := by
    rw [posted, settled.free_eq]
    apply List.filter_congr
    intro id member
    have noPost : posts (before.functionAt id) = none := by simpa using (List.mem_filter.1 member).2
    rw [settled.functionAt_eq fun _ => noPost]
  rw [unchanged, posted, List.filter_filter]
  apply List.filter_congr
  intro id _
  simp [Bool.and_comm]

/-- If two passes have no post in common, only one of them brings functions to a post. -/
theorem posted_append (settled : Settled posts settings before before.free middle)
    (apart : ∀ first second post, posts first = some post → more second ≠ some post)
    (post : Post) :
    posted posts before before.free (some post) ++ posted more middle middle.free (some post) =
      posted (fun function => (posts function).or (more function)) before before.free
        (some post) := by
  have either (id : FunctionId) :
      (posts (before.functionAt id)).or (more (before.functionAt id)) = some post ↔
        posts (before.functionAt id) = some post ∨
          posts (before.functionAt id) = none ∧ more (before.functionAt id) = some post := by
    cases posts (before.functionAt id) <;> simp
  rw [settled.posted_after]
  by_cases early : ∃ function, posts function = some post
  · obtain ⟨function, isPosted⟩ := early
    have noMore : (before.free.filter fun id =>
        posts (before.functionAt id) = none ∧ more (before.functionAt id) = some post) = [] := by
      simp [apart function _ post isPosted]
    rw [noMore, List.append_nil, posted, posted]
    apply List.filter_congr
    intro id _
    simp [either, apart function _ post isPosted]
  · have noEarly (function : Function) : posts function ≠ some post :=
      fun isPosted => early ⟨function, isPosted⟩
    have none : posted posts before before.free (some post) = [] := by
      simp [posted, noEarly]
    rw [none, List.nil_append, posted]
    apply List.filter_congr
    intro id _
    simp only [either, noEarly, false_or]

/-- Two passes of which the second one has what the first one left are like a single pass. -/
theorem trans (first : Settled posts settings before before.free middle)
    (second : Settled more settings middle middle.free after)
    (apart : ∀ first second post, posts first = some post → more second ≠ some post) :
    Settled (fun function => (posts function).or (more function)) settings before before.free
      after where
  functions := by
    rw [second.functions, first.free_eq]
    apply Forest.functions_mapFunctions_filter first.functions
    intro id _
    cases isPosted : posts (before.functionAt id) <;> simp [dressed, isPosted]
  free := by
    rw [second.free_eq, first.posted_after]
    apply List.filter_congr
    intro id isFree
    cases isPosted : posts (before.functionAt id) <;>
      cases more (before.functionAt id) <;> simp [isFree]
  methods := by
    intro name
    rw [second.methods, first.methods, List.append_assoc, first.posted_append apart]
  slots := by
    intro slot name
    rw [second.slots, first.slots, ← first.posted_append apart, List.getLast?_append,
      Option.or_assoc]
  others := fun name => (second.others name).trans (first.others name)
  roots := second.roots
  inner := by
    intro c isInner
    rw [second.inner c fun isRoot => isInner (first.grows.isRoot isRoot), first.inner c isInner]
  grows := first.grows.trans second.grows
  beside := by
    obtain ⟨detached, enums, exceptions⟩ := second.beside
    rw [detached, enums, exceptions]
    exact first.beside

end Settled

theorem forest_hoistAllocator_eq_settle (roots : draft.forest.RootsHold) :
    (hoistAllocator structs settings draft id).forest =
      (allocatorPost? structs settings (draft.forest.functionAt id)).elim draft.forest
        (settle settings draft.forest id) := by
  rw [forest_hoistAllocator_of_roots roots rfl, allocatorPost?]
  split <;> rfl

theorem forest_hoistStructFunction_eq_settle (roots : draft.forest.RootsHold) :
    (hoistStructFunction structs settings draft id).forest =
      (structPost? structs settings (draft.forest.functionAt id)).elim draft.forest
        (settle settings draft.forest id) := by
  cases takes : structParameter? structs (draft.forest.functionAt id) with
  | none =>
      rw [hoistStructFunction_of_none takes, structPost?, takes]
      rfl
  | some className =>
      rw [forest_hoistStructFunction_of_roots roots takes rfl, structPost?, takes]
      by_cases deallocates : isDeallocatorName settings (draft.forest.functionAt id).name
      · rw [if_pos deallocates, Option.map_some, if_pos deallocates]
        rfl
      · rw [if_neg deallocates, Option.map_some, if_neg deallocates]
        rfl

theorem role_of_allocatorPost? {function : Function} {post : Post}
    (isPosted : allocatorPost? structs settings function = some post) :
    post.role = .slot .alloc := by
  rw [allocatorPost?] at isPosted
  split at isPosted
  · cases isPosted
    rfl
  · cases isPosted

theorem role_ne_of_structPost? {function : Function} {post : Post}
    (isPosted : structPost? structs settings function = some post) :
    post.role ≠ .slot .alloc := by
  obtain ⟨className, -, rfl⟩ := Option.map_eq_some_iff.1 isPosted
  dsimp only
  split <;> simp

/-- Together the first two passes bring every function that has a post there. -/
theorem settled_hoistStructFunctions (roots : draft.forest.RootsHold)
    (different : draft.forest.free.Nodup) :
    Settled (post? structs settings) settings draft.forest draft.forest.free
      (hoistStructFunctions structs settings (hoistAllocators structs settings draft)).forest := by
  have first : Settled (allocatorPost? structs settings) settings draft.forest draft.forest.free
      (hoistAllocators structs settings draft).forest :=
    Settled.foldl (fun _ _ => forest_hoistAllocator_eq_settle) (by rwa [List.nil_append])
      (.start roots)
  generalize hoistAllocators structs settings draft = allocated at first ⊢
  have stillDifferent : allocated.forest.free.Nodup := first.free ▸ different.filter _
  have second : Settled (structPost? structs settings) settings allocated.forest
      allocated.forest.free (hoistStructFunctions structs settings allocated).forest :=
    Settled.foldl (fun _ _ => forest_hoistStructFunction_eq_settle) (by rwa [List.nil_append])
      (.start first.roots)
  exact first.trans second fun _ _ _ allocates takes =>
    role_ne_of_structPost? takes (role_of_allocatorPost? allocates)

/-! ## What is left -/

theorem place_eq_dress (function : Function) :
    place structs settings function =
      (post? structs settings function).elim (makeStatic function) fun post =>
        post.role.dress settings function := by
  rw [place, post?, allocatorPost?, member?, structPost?]
  by_cases allocates : isAllocator structs settings function
  · rw [if_pos allocates, if_pos allocates]
    rfl
  · rw [if_neg allocates, if_neg allocates, Option.none_or]
    cases structParameter? structs function with
    | none => rfl
    | some className =>
        by_cases deallocates : isDeallocatorName settings function.name
        · simp only [deallocates]
          rfl
        · simp only [deallocates]
          rfl

/-- Making functions static that are different changes each of them once. -/
theorem staticForest_eq_mapFunctions (different : ids.Nodup) :
    staticForest forest ids = forest.mapFunctions ids makeStatic := by
  induction ids using List.reverseRecOn with
  | nil => exact Forest.mapFunctions_nil.symm
  | append_singleton rest id ih =>
      obtain ⟨restDifferent, -, apart⟩ := List.nodup_append'.1 different
      have fresh : id ∉ rest := fun member => apart member (List.mem_singleton_self id)
      rw [Forest.mapFunctions_concat fresh, ← ih restDifferent, staticForest, staticForest,
        List.foldl_concat]

/-- What hoisting makes of a forest: every function that was free goes to its post, and those
without one become methods of the root class. -/
structure Hoisted (structs : List String) (settings : Settings) (rootClass : String)
    (before after : Forest) : Prop where
  free : after.free = []
  functions : after.functions =
    (before.mapFunctions before.free (place structs settings)).functions
  methods : ∀ name, (after.topClass name).methods =
    (before.topClass name).methods ++
      posted (post? structs settings) before before.free (some ⟨.member, name⟩) ++
      if rootClass = name then posted (post? structs settings) before before.free none else []
  slots : ∀ slot : RootSlot, ∀ name, slot.get (after.topClass name) =
    (posted (post? structs settings) before before.free (some ⟨.slot slot, name⟩)).getLast?.or
      (slot.get (before.topClass name))
  others : ∀ name, unhoisted (after.topClass name) = unhoisted (before.topClass name)
  inner : ∀ c, before.hierarchy.parent? c ≠ none → after.classAt c = before.classAt c
  grows : before.hierarchy.Extends after.hierarchy
  beside : after.detached = before.detached ∧ after.enums = before.enums ∧
    after.exceptions = before.exceptions

/-- Where a free function goes and what becomes of it depends on nothing but itself, and each class
gets what is posted to it in the order of the free list. -/
theorem hoisted_hoistLeftovers (roots : draft.forest.RootsHold)
    (different : draft.forest.free.Nodup) :
    Hoisted structs settings rootClass draft.forest
      (hoistLeftovers rootClass (hoistStructFunctions structs settings
        (hoistAllocators structs settings draft))).forest := by
  have settled : Settled (post? structs settings) settings draft.forest draft.forest.free _ :=
    settled_hoistStructFunctions roots different
  generalize hoistStructFunctions structs settings (hoistAllocators structs settings draft) =
    assigned at settled ⊢
  have stillDifferent : assigned.forest.free.Nodup := settled.free ▸ different.filter _
  have left := settled.free_eq
  -- What is left over goes to the root class behind the methods that the class got before.
  generalize isAfter : (hoistLeftovers rootClass assigned).forest = after
  rw [forest_hoistLeftovers rfl rfl, staticForest_eq_mapFunctions stillDifferent] at isAfter
  have tops (name : String) : after.topClass name = if rootClass = name then
      { assigned.forest.topClass name with
        methods := (assigned.forest.topClass name).methods ++ assigned.forest.free }
      else assigned.forest.topClass name := by
    rw [← isAfter]
    exact (assigned.forest.mapFunctions assigned.forest.free makeStatic).topClass_modifyRequired
      rootClass name fun c => { c with methods := c.methods ++ assigned.forest.free }
  constructor
  case free => rw [← isAfter]
  case functions =>
    rw [← isAfter, left]
    apply Forest.functions_mapFunctions_filter settled.functions
    intro id _
    rw [place_eq_dress]
    cases isPosted : post? structs settings (draft.forest.functionAt id) <;>
      simp [dressed, isPosted]
  case methods =>
    intro name
    rw [tops, ← left]
    split
    · rw [settled.methods]
    · rw [settled.methods, List.append_nil]
  case slots =>
    intro slot name
    rw [← settled.slots, tops]
    split
    · exact slot.get_of_handle rfl
    · rfl
  case others =>
    intro name
    rw [← settled.others, tops]
    split <;> rfl
  case inner =>
    intro c isInner
    rw [← settled.inner c isInner, ← isAfter]
    exact (assigned.forest.mapFunctions assigned.forest.free
      makeStatic).classAt_modifyRequired_of_inner rootClass
        (fun isRoot => isInner (settled.grows.isRoot isRoot)) _
  case grows =>
    rw [← isAfter]
    exact settled.grows.trans (assigned.forest.hierarchy.extends_require none rootClass)
  case beside =>
    rw [← isAfter]
    exact settled.beside

/-- A function for each kind of post of the class `Tox`, and one without a post.  The method was
static before. -/
def newKillIterateAndVersion : Draft where
  forest := { Forest.empty with
    functions := [
      { name := "tox_new", cname := "tox_new", ret := { type := toxPointer }, params := [] },
      { name := "tox_kill"
        cname := "tox_kill"
        ret := { type := .void }
        params := [.plain { name := "tox", type := toxPointer }] },
      { name := "tox_iterate"
        cname := "tox_iterate"
        ret := { type := .void }
        params := [.plain { name := "tox", type := toxPointer }]
        isStatic := true },
      { name := "tox_version", cname := "tox_version", ret := { type := .void }, params := [] }]
    free := [3, 2, 1, 0] }
where
  toxPointer : ValueType :=
    { ValueType.void with
      kind := .reference "Tox"
      ctype := { name := "Tox", isPointer := true } }

/-- The class of the struct is the root class of the header, too, and its own method comes first
although it was free later. -/
theorem hoisted_newKillIterateAndVersion :
    newKillIterateAndVersion.forest.RootsHold ∧ newKillIterateAndVersion.forest.free.Nodup ∧
    ∃ after, Hoisted ["Tox"] Settings.default "Tox" newKillIterateAndVersion.forest after ∧
      (after.topClass "Tox").methods = [2, 3] ∧
      RootSlot.alloc.get (after.topClass "Tox") = some 0 ∧
      RootSlot.dealloc.get (after.topClass "Tox") = some 1 := by
  have roots : newKillIterateAndVersion.forest.RootsHold := fun _ _ => rfl
  have different : newKillIterateAndVersion.forest.free.Nodup := by decide
  have hoisted : Hoisted ["Tox"] Settings.default "Tox" newKillIterateAndVersion.forest _ :=
    hoisted_hoistLeftovers roots different
  refine ⟨roots, different, _, hoisted, ?_, ?_, ?_⟩
  · rw [hoisted.methods]
    decide
  · rw [hoisted.slots]
    decide
  · rw [hoisted.slots]
    decide

/-- A method that was static before still is. -/
theorem isStatic_toxIterate :
    newKillIterateAndVersion.forest.RootsHold ∧ newKillIterateAndVersion.forest.free.Nodup ∧
    let after := (hoistLeftovers "Tox" (hoistStructFunctions ["Tox"] Settings.default
      (hoistAllocators ["Tox"] Settings.default newKillIterateAndVersion))).forest
    post? ["Tox"] Settings.default (newKillIterateAndVersion.forest.functionAt 2) =
        some { role := .member, className := "Tox" } ∧
      2 ∈ (after.topClass "Tox").methods ∧ (after.functionAt 2).isStatic = true :=
  ⟨fun _ _ => rfl, by decide, by decide, by decide +kernel, by decide +kernel⟩

end Hoisting

end Bindery

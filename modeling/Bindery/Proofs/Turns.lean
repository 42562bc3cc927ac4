import Bindery.Proofs.HandleKinds
import Bindery.Proofs.Ownership

/-!
# Headers one after the other

A conversion that finishes has processed every header in its turn, each from what those before it
left.  What the turns keep holds in the end, and what a turn tells of the functions that arrive with
its header is told by their places among all arrivals.
-/

namespace Bindery.Conversion

variable {settings : Settings} {start final origin : Draft} {done : List HeaderDeclarations}
  {header : HeaderDeclarations} {rootClass : String} {declarations : DeclarationSet}
  {result : Result}

/-- A header that is processed after others. -/
structure Turn (settings : Settings) (done : List HeaderDeclarations)
    (header : HeaderDeclarations) (rootClass : String) (start final : Draft) : Prop where
  accounted : Accounted settings done start
  sound : start.forest.Sound
  isRoot : settings.rootClass? header.file = some rootClass
  finished : Pass.run (passes settings rootClass header) start = .ok final

/-- What every turn keeps holds of the forest of a finished conversion. -/
theorem turn_induction (Invariant : List HeaderDeclarations → Forest → Prop)
    (empty : Invariant [] .empty)
    (step : ∀ {done header rootClass start final},
      Turn settings done header rootClass start final → Invariant done start.forest →
      Invariant (done ++ [header]) final.forest)
    (converted : convert settings declarations = .ok result) :
    Invariant declarations.headers result.draft.forest := by
  obtain ⟨draft, same, -, -, -, kept⟩ := convert_induction
    (fun done draft => Accounted settings done draft ∧ Invariant done draft.forest)
    ⟨accounted_nil, empty⟩
    (fun isRoot sound invariant finished =>
      ⟨invariant.1.concat isRoot sound finished,
        step ⟨invariant.1, sound, isRoot, finished⟩ invariant.2⟩)
    converted
  rw [same]
  exact kept

/-! ## Drafts on the way -/

/-- Whether a draft is one at which the given first passes of one of the headers end. -/
def After (first : String → HeaderDeclarations → List Pass) (settings : Settings)
    (headers : List HeaderDeclarations) (draft : Draft) : Prop :=
  ∃ front header rest rootClass, headers = front ++ header :: rest ∧
    settings.rootClass? header.file = some rootClass ∧
    Pass.run (first rootClass header) (goOn settings front {}) = .ok draft

section After

variable {first : String → HeaderDeclarations → List Pass}

theorem not_after_nil : ¬After first settings [] origin := by
  rintro ⟨front, header, rest, -, split, -⟩
  simp at split

theorem After.append (after : After first settings done origin)
    (more : List HeaderDeclarations) : After first settings (done ++ more) origin := by
  obtain ⟨front, header, rest, rootClass, rfl, isRoot, ran⟩ := after
  exact ⟨front, header, rest ++ more, rootClass, by simp, isRoot, ran⟩

namespace Turn

variable (turn : Turn settings done header rootClass start final)

include turn

theorem goOn_eq : goOn settings done {} = start :=
  goOn_eq_of_ok settings turn.accounted.processed

theorem after (ran : Pass.run (first rootClass header) start = .ok origin) :
    After first settings (done ++ [header]) origin :=
  ⟨done, header, [], rootClass, rfl, turn.isRoot, turn.goOn_eq ▸ ran⟩

/-- A draft on the way is one of an earlier header or of the last one. -/
theorem after_cases (after : After first settings (done ++ [header]) origin) :
    After first settings done origin ∨ Pass.run (first rootClass header) start = .ok origin := by
  obtain ⟨front, other, rest, otherRoot, split, isOther, ran⟩ := after
  obtain ⟨rfl, rfl, rfl⟩ | ⟨earlier, rfl, rfl⟩ := concat_eq_append_cons split
  · obtain rfl := Option.some.inj (turn.isRoot.symm.trans isOther)
    rw [turn.goOn_eq] at ran
    exact .inr ran
  · exact .inl ⟨front, other, earlier, otherRoot, rfl, isOther, ran⟩

end Turn

end After

/-! ## Arrivals -/

theorem Turn.functionCount (turn : Turn settings done header rootClass start final) :
    final.forest.functionCount =
      start.forest.functionCount + (arrivals settings header).length := by
  obtain ⟨course, -⟩ := exists_course turn.finished
  have arrived : Arrived (fun _ _ => True) start.forest.functions start.forest :=
    ⟨rfl, fun _ _ _ => trivial⟩
  have ended := course.arrived (fun _ => trivial) (fun _ _ => trivial) turn.sound arrived
  rw [ended.1, List.length_append]
  rfl

/-- The signatures of the callbacks of a header. -/
def callbacks (settings : Settings) (header : HeaderDeclarations) : List FunctionDeclaration :=
  (header.typedefs.filter (Listeners.isCallback settings)).filterMap (·.asFunction?)

/-- What stands at a place in a list about the functions of a header and its callbacks. -/
theorem arrival_cases {α : Type} {ofFunction : Function → α} {ofCallback : FunctionDeclaration → α}
    {position : Nat} {tag : α}
    (isTag : ((Intake.functions settings header.functions).map ofFunction ++
      (callbacks settings header).map ofCallback)[position]? = some tag) :
    (∃ declared, (Intake.functions settings header.functions)[position]? = some declared ∧
        ofFunction declared = tag) ∨
      ∃ signature later, (callbacks settings header)[later]? = some signature ∧
        position = (Intake.functions settings header.functions).length + later ∧
        ofCallback signature = tag := by
  rcases Nat.lt_or_ge position (Intake.functions settings header.functions).length with
    early | late
  · left
    rw [List.getElem?_append_left (by rwa [List.length_map]), List.getElem?_map] at isTag
    exact Option.map_eq_some_iff.1 isTag
  · right
    rw [List.getElem?_append_right (by rwa [List.length_map]), List.length_map,
      List.getElem?_map] at isTag
    obtain ⟨signature, isCallback, told⟩ := Option.map_eq_some_iff.1 isTag
    exact ⟨signature, _, isCallback, (Nat.add_sub_cancel' late).symm, told⟩

/-- What is told of every function that arrives, by its place among the arrivals of its header, and
is passed on by later headers, holds of all functions of a finished forest. -/
theorem arrival_induction {α : Type} {tags : HeaderDeclarations → List α}
    {Told : List HeaderDeclarations → α → FunctionId → Forest → Prop}
    (counted : ∀ header, (tags header).length = (arrivals settings header).length)
    (old : ∀ {done header rootClass start final tag id},
      Turn settings done header rootClass start final → id < start.forest.functionCount →
      Told done tag id start.forest → Told (done ++ [header]) tag id final.forest)
    (new : ∀ {done header rootClass start final tag position},
      Turn settings done header rootClass start final →
      (tags header)[position]? = some tag →
      Told (done ++ [header]) tag (start.forest.functionCount + position) final.forest)
    (converted : convert settings declarations = .ok result) {id : FunctionId} {tag : α}
    (isTag : (declarations.headers.flatMap tags)[id]? = some tag) :
    Told declarations.headers tag id result.draft.forest := by
  have told := turn_induction (fun done forest =>
      forest.functionCount = (done.flatMap tags).length ∧
        ∀ id tag, (done.flatMap tags)[id]? = some tag → Told done tag id forest)
    ⟨rfl, by simp⟩
    (fun {done header rootClass start final} turn invariant => by
      obtain ⟨count, told⟩ := invariant
      refine ⟨?_, fun id tag isTag => ?_⟩
      · simp [turn.functionCount, count, counted]
      · rw [List.flatMap_append, List.flatMap_singleton] at isTag
        rcases Nat.lt_or_ge id (done.flatMap tags).length with isOld | isNew
        · rw [List.getElem?_append_left isOld] at isTag
          exact old turn (count ▸ isOld) (told id tag isTag)
        · rw [List.getElem?_append_right isNew] at isTag
          have isId : start.forest.functionCount + (id - (done.flatMap tags).length) = id := by
            rw [count, Nat.add_sub_cancel' isNew]
          exact isId ▸ new turn isTag)
    converted
  exact told.2 id tag isTag

theorem exists_tag_of_mem_owners {α : Type} {tags : HeaderDeclarations → List α}
    (counted : ∀ header, (tags header).length = (arrivals settings header).length)
    (converted : convert settings declarations = .ok result) {id : FunctionId} {slot : Slot}
    (owned : (id, slot) ∈ result.draft.forest.owners) :
    ∃ tag, (declarations.headers.flatMap tags)[id]? = some tag := by
  have total : (declarations.headers.flatMap tags).length = result.draft.forest.functionCount := by
    simp [functionCount_convert converted, List.length_flatMap, counted]
  exact ⟨_, List.getElem?_eq_getElem (total ▸ (sound_convert converted).lt_of_mem_owners owned)⟩

end Bindery.Conversion

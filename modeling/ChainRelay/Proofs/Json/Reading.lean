import ChainRelay.Broadcast.Request
import ChainRelay.Proofs.World.Course

/-!
# Reading values of unknown shape

A reader takes a value apart step by step and ends with a fault at the first step that the value has
no part for. Faults of the domain are told from the others, which nothing contains. Faults of failing
collaborators are told from the others as well, for those that contain no more than these.

## Main definitions

* `Uncaught` — a reader ends with a fault that is none of the domain
* `Kept` — a reader ends with a value of some kind, or with the fault of a failing collaborator
* `Offline` — a reader that never ends with the fault of a collaborator
* `Json.Memberless`, `Json.Is` — a value that has no members, or members of some kind

## Main results

* `Uncaught.bind_iff`, `Kept.bind_iff` — two readers in a row
* `Kept.mapM_iff` — a reader for each item of a list
* `Json.uncaught_member_iff` — when a member cannot be asked for
* `Json.kept_member_iff` and the like — what each way of taking a value apart asks of it
-/

namespace ChainRelay

variable {α β : Type}

/-- A reader that ends with a value hands it to the next one. -/
@[simp] theorem ok_bind (a : α) (f : α → Except Fault β) : (Except.ok a >>= f) = f a := rfl

/-- A reader that ends with a fault is the last one. -/
@[simp] theorem error_bind (fault : Fault) (f : α → Except Fault β) :
    (Except.error fault >>= f) = .error fault := rfl

/-! ### Faults that nobody catches -/

/-- A reader ends with a fault that is none of the domain. -/
def Uncaught (x : Except Fault α) (fault : Fault) : Prop :=
  x = .error fault ∧ fault.isDomain = false

namespace Uncaught

variable {x : Except Fault α} {f : α → Except Fault β} {fault : Fault}

/-- Of two readers in a row the first one does or, where it ends with a value, the second. -/
theorem bind_iff : Uncaught (x >>= f) fault ↔
    Uncaught x fault ∨ ∃ a, x = .ok a ∧ Uncaught (f a) fault := by
  cases x <;> simp [Uncaught]

@[simp] theorem not_ok {a : α} : ¬ Uncaught (.ok a) fault := fun h => nomatch h.1

@[simp] theorem not_validation {text : String} :
    ¬ Uncaught (.error (.validation text) : Except Fault α) fault := by
  rintro ⟨⟨⟩, hdomain⟩
  cases hdomain

end Uncaught

/-! ### Faults that are contained -/

/-- A reader ends with a value that satisfies `p`, or with the fault of a failing collaborator. -/
def Kept (p : α → Prop) (x : Except Fault α) : Prop :=
  match x with
  | .ok a => p a
  | .error fault => fault.isDependency = true

instance {p : α → Prop} [DecidablePred p] : DecidablePred (Kept p)
  | .ok a => inferInstanceAs (Decidable (p a))
  | .error fault => inferInstanceAs (Decidable (fault.isDependency = true))

namespace Kept

variable {p q : α → Prop} {x : Except Fault α}

@[simp] theorem ok_iff {a : α} : Kept p (.ok a) ↔ p a := Iff.rfl

@[simp] theorem pure_iff {a : α} : Kept p (pure a) ↔ p a := Iff.rfl

@[simp] theorem error_iff {fault : Fault} :
    Kept p (.error fault) ↔ fault.isDependency = true := Iff.rfl

/-- Of two readers in a row, the second has to do with what the first one ends with. -/
theorem bind_iff {f : α → Except Fault β} {p : β → Prop} :
    Kept p (x >>= f) ↔ Kept (fun a => Kept p (f a)) x := by
  cases x <;> rfl

theorem map_iff {f : α → β} {p : β → Prop} : Kept p (x.map f) ↔ Kept (fun a => p (f a)) x := by
  cases x <;> rfl

/-- Two properties that agree on the value are the same. -/
theorem congr_of_ok (h : ∀ a, x = .ok a → (p a ↔ q a)) : Kept p x ↔ Kept q x := by
  cases x with
  | ok a => exact h a rfl
  | error fault => rfl

theorem congr (h : ∀ a, p a ↔ q a) : Kept p x ↔ Kept q x := congr_of_ok fun a _ => h a

end Kept

/-- A reader never ends with the fault of a collaborator. -/
def Offline (x : Except Fault α) : Prop := ¬ Kept (fun _ => False) x

namespace Kept

variable {p : α → Prop} {x : Except Fault α} {c : Prop}

theorem iff_of_offline (h : Offline x) : Kept p x ↔ ∃ a, x = .ok a ∧ p a := by
  cases x with
  | ok a => simp
  | error fault => exact iff_of_false h (by simp)

theorem offline_pure {a : α} : Offline (pure a) := id

theorem offline_bind {f : α → Except Fault β} (hx : Offline x) (hf : ∀ a, Offline (f a)) :
    Offline (x >>= f) := by
  rw [Offline, bind_iff, iff_of_offline hx]
  rintro ⟨a, -, ha⟩
  exact hf a ha

/-- What has nothing to do with the value can be asked for beside the reader. -/
theorem and_iff (h : Offline x) : Kept (fun a => c ∧ p a) x ↔ c ∧ Kept p x := by
  cases x with
  | ok a => rfl
  | error fault =>
    constructor
    · exact fun hfault => absurd hfault h
    · exact fun hfault => absurd hfault.2 h

theorem offline_mapM {f : α → Except Fault β} {xs : List α} (h : ∀ a ∈ xs, Offline (f a)) :
    Offline (xs.mapM f) := by
  induction xs with
  | nil => exact id
  | cons a xs ih =>
    obtain ⟨hfirst, hrest⟩ := List.forall_mem_cons.mp h
    rw [Offline, List.mapM_cons, bind_iff]
    intro hkept
    refine hfirst ((congr fun b => ?_).mp hkept)
    rw [bind_iff]
    exact iff_of_false (ih hrest) not_false

/-- **A reader for each item of a list.** -/
theorem mapM_iff {f : α → Except Fault β} {p : β → Prop} {xs : List α}
    (h : ∀ a ∈ xs, Offline (f a)) :
    Kept (fun bs => ∀ b ∈ bs, p b) (xs.mapM f) ↔ ∀ a ∈ xs, Kept p (f a) := by
  induction xs with
  | nil => simp [Pure.pure, Except.pure]
  | cons a xs ih =>
    obtain ⟨hfirst, hrest⟩ := List.forall_mem_cons.mp h
    have hcons (b : β) : Kept (fun bs => ∀ b' ∈ b :: bs, p b') (xs.mapM f) ↔
        p b ∧ Kept (fun bs => ∀ b' ∈ bs, p b') (xs.mapM f) := by
      rw [← and_iff (offline_mapM hrest)]
      exact congr fun bs => List.forall_mem_cons
    rw [List.mapM_cons, bind_iff, List.forall_mem_cons, and_comm, ← ih hrest, ← and_iff hfirst]
    refine congr fun b => ?_
    rw [bind_iff, and_comm]
    exact hcons b

/-- A reader for each item of a list, whatever they end with. -/
theorem mapM_const_iff {f : α → Except Fault β} {xs : List α} (h : ∀ a ∈ xs, Offline (f a)) :
    Kept (fun _ => c) (xs.mapM f) ↔ c ∧ ∀ a ∈ xs, Kept (fun _ => True) (f a) := by
  rw [← mapM_iff h, ← and_iff (offline_mapM h)]
  exact congr fun bs => (and_iff_left fun _ _ => trivial).symm

/-- There are as many results as items. -/
theorem length_of_mapM {f : α → Except Fault β} {xs : List α} {bs : List β}
    (h : xs.mapM f = .ok bs) : bs.length = xs.length := by
  induction xs generalizing bs with
  | nil =>
    cases h
    rfl
  | cons a xs ih =>
    rw [List.mapM_cons] at h
    obtain ⟨b, -, h⟩ := exists_of_bind_eq_ok h
    obtain ⟨rest, hrest, h⟩ := exists_of_bind_eq_ok h
    cases h
    rw [List.length_cons, List.length_cons, ih hrest]

end Kept

/-! ### Members -/

namespace Json

/-- A value that has no members. -/
def Memberless (value : Json) : Prop := ∀ fields, value ≠ .obj fields

variable {value : Json} {fields : Fields} {name : String} {fault : Fault}

theorem not_memberless_obj : ¬ (obj fields).Memberless := fun h => h fields rfl

/-- A value that counts as false may be replaced by an object. -/
theorem memberless_orElse_obj :
    (value.orElse (.obj fields)).Memberless ↔ value.truthy = true ∧ value.Memberless := by
  rw [orElse]
  cases value.truthy with
  | true => simp
  | false => simpa using not_memberless_obj

theorem memberless_or_obj (value : Json) : value.Memberless ∨ ∃ fields, value = .obj fields := by
  cases value with
  | obj fields => exact .inr ⟨fields, rfl⟩
  | _ => exact .inl fun _ h => Json.noConfusion h

/-- A member of an object, `null` if it is not there. -/
theorem member_obj : (obj fields).member name = .ok (TokenServices.field fields name) := rfl

/-- A member that does not count as false is there. -/
theorem need_obj_of_truthy (h : (TokenServices.field fields name).truthy = true) :
    (obj fields).need name = .ok (TokenServices.field fields name) := by
  rw [TokenServices.field] at h ⊢
  rw [need]
  cases hfound : Fields.get? fields name with
  | some found => rfl
  | none =>
    rw [hfound] at h
    cases h

/-- A member is asked of a value that has none. -/
theorem member_of_memberless (h : value.Memberless) (name : String) :
    value.member name = .error (.notAnObject value.kind "get") := by
  cases value with
  | obj fields => exact absurd h not_memberless_obj
  | _ => rfl

theorem uncaught_member_iff : Uncaught (value.member name) fault ↔
    value.Memberless ∧ fault = .notAnObject value.kind "get" := by
  rcases value.memberless_or_obj with h | ⟨fields, rfl⟩
  · rw [member_of_memberless h]
    constructor
    · rintro ⟨⟨⟩, -⟩
      exact ⟨h, rfl⟩
    · rintro ⟨-, rfl⟩
      exact ⟨rfl, rfl⟩
  · rw [member_obj]
    constructor
    · exact fun h => absurd h Uncaught.not_ok
    · exact fun h => absurd h.1 not_memberless_obj

/-! ### What it takes to be read -/

variable {p : Json → Prop}

/-- An object of some kind. -/
def Is (shape : Fields → Prop) (value : Json) : Prop := ∃ fields, value = .obj fields ∧ shape fields

/-- What counts as false, or an object of some kind. -/
def MayBe (shape : Fields → Prop) (value : Json) : Prop := (value.orElse (.obj [])).Is shape

/-- A whole number, or what denotes one. -/
def Whole (value : Json) : Prop := ∃ n, value.toInt = .ok n

theorem is_obj_iff {shape : Fields → Prop} : (obj fields).Is shape ↔ shape fields := by
  constructor
  · rintro ⟨_, ⟨⟩, h⟩
    exact h
  · exact fun h => ⟨fields, rfl, h⟩

theorem is_congr {shape shape' : Fields → Prop}
    (h : ∀ fields, value = .obj fields → (shape fields ↔ shape' fields)) :
    value.Is shape ↔ value.Is shape' :=
  exists_congr fun fields => and_congr_right (h fields)

/-- An object of two kinds. -/
theorem is_and_iff {shape shape' : Fields → Prop} :
    (value.Is fun fields => shape fields ∧ shape' fields) ↔ value.Is shape ∧ value.Is shape' := by
  rcases value.memberless_or_obj with h | ⟨fields, rfl⟩
  · exact iff_of_false (fun ⟨fields, heq, _⟩ => h fields heq) fun ⟨⟨fields, heq, _⟩, _⟩ => h fields heq
  · simp only [is_obj_iff]

theorem not_is_of_memberless {shape : Fields → Prop} (h : value.Memberless) : ¬ value.Is shape :=
  fun ⟨fields, heq, _⟩ => h fields heq

/-- A member is asked of an object, -/
theorem kept_member_iff : Kept p (value.member name) ↔
    value.Is fun fields => p (TokenServices.field fields name) := by
  rcases value.memberless_or_obj with h | ⟨fields, rfl⟩
  · rw [member_of_memberless h]
    exact iff_of_false Bool.false_ne_true (not_is_of_memberless h)
  · rw [member_obj, Kept.ok_iff, is_obj_iff]

theorem kept_get_iff {p : Option Json → Prop} : Kept p (value.get name) ↔
    value.Is fun fields => p (Fields.get? fields name) := by
  cases value with
  | obj fields => rw [get, Kept.ok_iff, is_obj_iff]
  | _ => exact iff_of_false Bool.false_ne_true (not_is_of_memberless fun _ h => Json.noConfusion h)

/-- and one that must be there is asked of an object that has it. -/
theorem kept_need_iff : Kept p (value.need name) ↔
    value.Is fun fields => ∃ found, Fields.get? fields name = some found ∧ p found := by
  cases value with
  | obj fields =>
    rw [is_obj_iff, need]
    cases Fields.get? fields name with
    | none => simp [Fault.isDependency]
    | some found => simp
  | _ => exact iff_of_false Bool.false_ne_true (not_is_of_memberless fun _ h => Json.noConfusion h)

theorem kept_members_iff {p : Fields → Prop} : Kept p value.members ↔ value.Is p := by
  cases value with
  | obj fields => exact is_obj_iff.symm
  | _ => exact iff_of_false Bool.false_ne_true (not_is_of_memberless fun _ h => Json.noConfusion h)

/-! ### What has nothing to do with collaborators -/

theorem offline_member : Offline (value.member name) :=
  fun h => (kept_member_iff.mp h).elim fun _ hfields => hfields.2

theorem offline_get : Offline (value.get name) :=
  fun h => (kept_get_iff.mp h).elim fun _ hfields => hfields.2

theorem offline_need : Offline (value.need name) := by
  intro h
  obtain ⟨_, _, _, _, hfalse⟩ := kept_need_iff.mp h
  exact hfalse

/-- Parts are those of a list, an object or a text. -/
theorem offline_parts : Offline value.parts := by
  rw [parts]
  cases value.parts? with
  | none => exact Bool.false_ne_true
  | some items => exact id

theorem kept_parts_iff {p : List Json → Prop} : Kept p value.parts ↔
    ∃ items, value.parts? = some items ∧ p items := by
  rw [Kept.iff_of_offline offline_parts, parts]
  cases value.parts? <;> simp

/-- A text that is not JSON is no fault of a collaborator, -/
theorem offline_ofText {text : String} : Offline (ofText text) := by
  rw [ofText]
  cases parse text with
  | ok value => exact id
  | error e => cases e <;> exact Bool.false_ne_true

/-- and neither is a value that is no whole number, -/
theorem offline_toInt : Offline value.toInt := by
  unfold toInt
  split <;> (try split) <;> (try split) <;> first | exact id | exact Bool.false_ne_true

/-- nor one that is not made of members. -/
theorem offline_asName : Offline value.asName := by
  cases value <;> first | exact id | exact Bool.false_ne_true

theorem offline_asPair {index : Nat} : Offline (value.asPair index) := by
  unfold asPair
  split
  · exact Bool.false_ne_true
  · exact Kept.offline_bind offline_asName fun _ => id
  · exact Bool.false_ne_true

theorem offline_collectPairs {index : Nat} {done : List (Json × Json)} {items : List Json} :
    Offline (collectPairs index done items) := by
  induction items generalizing index done with
  | nil => exact id
  | cons item rest ih => exact Kept.offline_bind offline_asPair fun _ => ih

theorem offline_toFields : Offline value.toFields := by
  unfold toFields
  split
  · exact id
  · refine Kept.offline_bind offline_parts fun items => ?_
    refine Kept.offline_bind offline_collectPairs fun pairs => ?_
    exact Kept.offline_mapM fun pair _ => Kept.offline_bind offline_asName fun _ => Kept.offline_pure

end Json

end ChainRelay

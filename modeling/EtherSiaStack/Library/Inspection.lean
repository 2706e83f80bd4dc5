/-
Programs that inspect a memory.

An inspector yields the addresses it read, in order, and a value, or no value when
a loop in it ran out of fuel.  `ReadsOnly` says which addresses it reads, `Within` that
they lie below a bound; the rules give the value and the reads of a sequence from those
of its parts.
-/

import EtherSiaStack.Library.ByteMemory

namespace ByteMemory

structure Inspected (α : Type) where
  reads : List Nat
  value : Option α

def Inspector (α : Type) : Type :=
  Memory → Inspected α

namespace Inspector

variable {α β σ ρ : Type}

protected def pure (value : α) : Inspector α :=
  fun _ => ⟨[], some value⟩

/-- The second part runs on the value of the first, if there is one. -/
protected def bind (first : Inspector α) (second : α → Inspector β) : Inspector β :=
  fun memory =>
    match (first memory).value with
    | none => ⟨(first memory).reads, none⟩
    | some value =>
        ⟨(first memory).reads ++ (second value memory).reads, (second value memory).value⟩

instance : Monad Inspector where
  pure := Inspector.pure
  bind := Inspector.bind

def outOfFuel : Inspector α :=
  fun _ => ⟨[], none⟩

def read (address : Nat) : Inspector UInt8 :=
  fun memory => ⟨[address], some (memory address)⟩

def readWord (address : Nat) : Inspector UInt16 :=
  fun memory => ⟨[address, address + 1], some (u16At memory address)⟩

/-- A block of bytes, in one access. -/
def readBlock (address : Nat) {size : Nat} : Inspector (Fin size → UInt8) :=
  fun memory => ⟨List.range' address size, some (blockAt memory address)⟩

/-- A loop with at most `fuel` passes. -/
def loop (body : σ → Inspector (σ ⊕ ρ)) : Nat → σ → Inspector ρ
  | 0, _ => outOfFuel
  | fuel + 1, state => do
      match ← body state with
      | .inl next => loop body fuel next
      | .inr result => pure result

/-! ### Values -/

@[simp] theorem pure_value (value : α) (memory : Memory) :
    ((pure value : Inspector α) memory).value = some value :=
  rfl

@[simp] theorem read_value (address : Nat) (memory : Memory) :
    (read address memory).value = some (memory address) :=
  rfl

@[simp] theorem readWord_value (address : Nat) (memory : Memory) :
    (readWord address memory).value = some (u16At memory address) :=
  rfl

@[simp] theorem readBlock_value (address : Nat) {size : Nat} (memory : Memory) :
    ((readBlock address : Inspector (Fin size → UInt8)) memory).value =
      some (blockAt memory address) :=
  rfl

theorem bind_value (first : Inspector α) (second : α → Inspector β) (memory : Memory) :
    ((first >>= second) memory).value =
      (first memory).value.bind fun value => (second value memory).value := by
  change (Inspector.bind first second memory).value = _
  unfold Inspector.bind
  cases (first memory).value <;> rfl

theorem bind_value_of_some {first : Inspector α} {memory : Memory} {value : α}
    (yields : (first memory).value = some value) (second : α → Inspector β) :
    ((first >>= second) memory).value = (second value memory).value := by
  rw [bind_value, yields]
  rfl

/-- Only what follows the value of the first part matters. -/
theorem bind_congr_of_some {first : Inspector α} {memory : Memory} {value : α}
    {second third : α → Inspector β} (yields : (first memory).value = some value)
    (same : second value memory = third value memory) :
    (first >>= second) memory = (first >>= third) memory := by
  change Inspector.bind first second memory = Inspector.bind first third memory
  unfold Inspector.bind
  rw [yields]
  dsimp only
  rw [same]

theorem loop_value_of_next {body : σ → Inspector (σ ⊕ ρ)} {memory : Memory}
    {state next : σ} (continues : (body state memory).value = some (.inl next))
    (fuel : Nat) :
    (loop body (fuel + 1) state memory).value = (loop body fuel next memory).value :=
  bind_value_of_some continues _

theorem loop_value_of_result {body : σ → Inspector (σ ⊕ ρ)} {memory : Memory}
    {state : σ} {result : ρ} (leaves : (body state memory).value = some (.inr result))
    (fuel : Nat) : (loop body (fuel + 1) state memory).value = some result :=
  bind_value_of_some leaves _

/-! ### What is read -/

/-- Every byte read is an allowed one. -/
def ReadsOnly (allowed : Nat → Prop) (inspector : Inspector α) (memory : Memory) : Prop :=
  ∀ address ∈ (inspector memory).reads, allowed address

section ReadsOnly

variable {allowed : Nat → Prop} {memory : Memory}

theorem readsOnly_pure (value : α) : ReadsOnly allowed (pure value : Inspector α) memory :=
  fun _ member => absurd member List.not_mem_nil

theorem readsOnly_outOfFuel : ReadsOnly allowed (outOfFuel : Inspector α) memory :=
  fun _ member => absurd member List.not_mem_nil

theorem readsOnly_read {address : Nat} :
    ReadsOnly allowed (read address) memory ↔ allowed address := by
  constructor
  · intro reads
    exact reads address List.mem_cons_self
  · intro inside other member
    rw [List.mem_singleton.mp member]
    exact inside

theorem readsOnly_readWord {address : Nat} :
    ReadsOnly allowed (readWord address) memory ↔
      allowed address ∧ allowed (address + 1) := by
  constructor
  · intro reads
    exact ⟨reads address List.mem_cons_self,
      reads (address + 1) (List.mem_cons_of_mem _ List.mem_cons_self)⟩
  · rintro ⟨high, low⟩ other member
    rcases List.mem_cons.mp member with rfl | second
    · exact high
    · rw [List.mem_singleton.mp second]
      exact low

theorem readsOnly_readBlock {address size : Nat} :
    ReadsOnly allowed (readBlock address : Inspector (Fin size → UInt8)) memory ↔
      ∀ other, address ≤ other → other < address + size → allowed other := by
  unfold ReadsOnly
  constructor
  · intro reads other lower upper
    exact reads other (List.mem_range'_1.mpr ⟨lower, upper⟩)
  · intro inside other member
    obtain ⟨lower, upper⟩ := List.mem_range'_1.mp member
    exact inside other lower upper

theorem bind_reads (first : Inspector α) (second : α → Inspector β) (memory : Memory) :
    ((first >>= second) memory).reads =
      (first memory).reads ++
        ((first memory).value.elim [] fun value => (second value memory).reads) := by
  change (Inspector.bind first second memory).reads = _
  unfold Inspector.bind
  cases (first memory).value with
  | none => exact (List.append_nil _).symm
  | some value => rfl

theorem readsOnly_bind {first : Inspector α} {second : α → Inspector β} :
    ReadsOnly allowed (first >>= second) memory ↔
      ReadsOnly allowed first memory ∧
        ∀ value, (first memory).value = some value →
          ReadsOnly allowed (second value) memory := by
  unfold ReadsOnly
  rw [bind_reads, List.forall_mem_append]
  apply and_congr_right
  intro _
  cases (first memory).value with
  | none =>
      constructor
      · intro _ value absurdity
        cases absurdity
      · intro _ address member
        exact absurd member List.not_mem_nil
  | some yielded =>
      constructor
      · intro reads value same
        cases same
        exact reads
      · intro reads
        exact reads yielded rfl

theorem readsOnly_bind_of_some {first : Inspector α} {value : α}
    (yields : (first memory).value = some value) (second : α → Inspector β) :
    ReadsOnly allowed (first >>= second) memory ↔
      ReadsOnly allowed first memory ∧ ReadsOnly allowed (second value) memory := by
  rw [readsOnly_bind, yields]
  simp only [Option.some.injEq, forall_eq']

end ReadsOnly

/-! ### Bounds -/

/-- Every byte read lies below the bound. -/
def Within (bound : Nat) (inspector : Inspector α) (memory : Memory) : Prop :=
  ∀ address ∈ (inspector memory).reads, address < bound

theorem within_pure (bound : Nat) (value : α) (memory : Memory) :
    Within bound (pure value : Inspector α) memory :=
  readsOnly_pure value

theorem within_outOfFuel (bound : Nat) (memory : Memory) :
    Within bound (outOfFuel : Inspector α) memory :=
  readsOnly_outOfFuel

theorem within_read {bound address : Nat} {memory : Memory} :
    Within bound (read address) memory ↔ address < bound :=
  readsOnly_read

theorem within_readWord {bound address : Nat} {memory : Memory} :
    Within bound (readWord address) memory ↔ address + 1 < bound :=
  readsOnly_readWord.trans (and_iff_right_of_imp (Nat.lt_trans (Nat.lt_succ_self _)))

theorem within_bind {bound : Nat} {first : Inspector α} {second : α → Inspector β}
    {memory : Memory} :
    Within bound (first >>= second) memory ↔
      Within bound first memory ∧
        ∀ value, (first memory).value = some value →
          Within bound (second value) memory :=
  readsOnly_bind

theorem within_bind_of_some {bound : Nat} {first : Inspector α} {memory : Memory}
    {value : α} (yields : (first memory).value = some value)
    (second : α → Inspector β) :
    Within bound (first >>= second) memory ↔
      Within bound first memory ∧ Within bound (second value) memory :=
  readsOnly_bind_of_some yields second

/-- A loop stays below the bound if its first pass does and what follows does. -/
theorem within_loop_succ {bound : Nat} {body : σ → Inspector (σ ⊕ ρ)} {memory : Memory}
    {fuel : Nat} {state : σ} :
    Within bound (loop body (fuel + 1) state) memory ↔
      Within bound (body state) memory ∧
        ∀ next, (body state memory).value = some (.inl next) →
          Within bound (loop body fuel next) memory := by
  have unfolded : loop body (fuel + 1) state = body state >>= fun outcome =>
      match outcome with
      | .inl next => loop body fuel next
      | .inr result => pure result := rfl
  rw [unfolded, within_bind]
  apply and_congr_right
  intro _
  constructor
  · intro within next continues
    exact within (.inl next) continues
  · intro within outcome yields
    cases outcome with
    | inl next => exact within next yields
    | inr result => exact within_pure _ _ _

end Inspector

end ByteMemory

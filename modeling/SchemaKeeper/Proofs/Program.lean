import Mathlib.Data.List.Chain
import SchemaKeeper.Gateway

/-!
# Programs and the worlds they pass through

A program changes the world only by its calls.  `Keeps` says that every call a
program makes relates the world before it to the world after it, and `worlds`
lists the worlds after each of its calls, so what every call keeps is kept
between any two points of a run.  `history` lists the calls themselves, each with
what was found.  What a program `Overlooks` in the answers changes neither its
calls nor its result.
-/

namespace SchemaKeeper

structure Event where
  call : Call
  found : Except RemoteError call.Answer

namespace Program

variable {World α β : Type}
variable {answer : (c : Call) → World → Except RemoteError c.Answer × World}

/-! ## Running -/

@[simp] theorem run_pure (result : α) (world : World) :
    (pure result : Program α).run answer world = (result, world) :=
  rfl

@[simp] theorem run_ask (c : Call) (world : World) :
    (ask c).run answer world = answer c world :=
  rfl

@[simp] theorem run_bind (p : Program α) (next : α → Program β) (world : World) :
    (p >>= next).run answer world =
      (next (p.run answer world).1).run answer (p.run answer world).2 := by
  induction p generalizing world with
  | done result => rfl
  | call c rest ih => exact ih (answer c world).1 (answer c world).2

/-! ## What every call keeps -/

/-- Every call from here on relates the world before it to the world after it. -/
def Keeps (answer : (c : Call) → World → Except RemoteError c.Answer × World)
    (R : World → World → Prop) : Program α → World → Prop
  | .done _, _ => True
  | .call c next, world =>
      R world (answer c world).2 ∧ (next (answer c world).1).Keeps answer R (answer c world).2

variable {R : World → World → Prop}

@[simp] theorem keeps_pure (result : α) (world : World) :
    (pure result : Program α).Keeps answer R world :=
  trivial

@[simp] theorem keeps_ask (c : Call) (world : World) :
    (ask c).Keeps answer R world ↔ R world (answer c world).2 :=
  and_iff_left trivial

theorem keeps_bind {p : Program α} {next : α → Program β} {world : World} :
    (p >>= next).Keeps answer R world ↔
      p.Keeps answer R world ∧
        (next (p.run answer world).1).Keeps answer R (p.run answer world).2 := by
  induction p generalizing world with
  | done result => exact (and_iff_right trivial).symm
  | call c rest ih =>
      change R world (answer c world).2 ∧ _ ↔ _
      rw [show ((rest (answer c world).1).bind next).Keeps answer R (answer c world).2 ↔ _ from
        ih (answer c world).1, ← and_assoc]
      rfl

/-! ## The worlds of a run -/

/-- The worlds after each call, in the order of the calls. -/
def worlds (answer : (c : Call) → World → Except RemoteError c.Answer × World) :
    Program α → World → List World
  | .done _, _ => []
  | .call c next, world =>
      (answer c world).2 :: (next (answer c world).1).worlds answer (answer c world).2

theorem isChain_worlds {p : Program α} {world : World} (h : p.Keeps answer R world) :
    List.IsChain R (world :: p.worlds answer world) := by
  induction p generalizing world with
  | done result => exact .singleton world
  | call c rest ih => exact .cons_cons h.1 (ih _ h.2)

/-- What every call keeps is kept between any two points of a run. -/
theorem pairwise_worlds [Trans R R R] {p : Program α} {world : World}
    (h : p.Keeps answer R world) : (world :: p.worlds answer world).Pairwise R :=
  (isChain_worlds h).pairwise

/-! ## The history of a run -/

def history (answer : (c : Call) → World → Except RemoteError c.Answer × World) :
    Program α → World → List Event
  | .done _, _ => []
  | .call c next, world =>
      ⟨c, (answer c world).1⟩ :: (next (answer c world).1).history answer (answer c world).2

@[simp] theorem history_pure (result : α) (world : World) :
    (pure result : Program α).history answer world = [] :=
  rfl

@[simp] theorem history_ask (c : Call) (world : World) :
    (ask c).history answer world = [⟨c, (answer c world).1⟩] :=
  rfl

@[simp] theorem history_bind (p : Program α) (next : α → Program β) (world : World) :
    (p >>= next).history answer world =
      p.history answer world ++
        (next (p.run answer world).1).history answer (p.run answer world).2 := by
  induction p generalizing world with
  | done result => rfl
  | call c rest ih =>
      have hrest := ih (answer c world).1 (answer c world).2
      exact congrArg (⟨c, (answer c world).1⟩ :: ·) hrest

/-! ## What a program may ask -/

/-- Every call of a program has a property, whatever was found before. -/
def Asks (P : Call → Prop) : Program α → Prop
  | .done _ => True
  | .call c next => P c ∧ ∀ found, (next found).Asks P

variable {P : Call → Prop}

@[simp] theorem asks_pure (result : α) : (pure result : Program α).Asks P :=
  trivial

@[simp] theorem asks_ask (c : Call) : (ask c).Asks P ↔ P c :=
  and_iff_left fun _ => trivial

theorem asks_bind {p : Program α} {next : α → Program β} (hp : p.Asks P)
    (hnext : ∀ result, (next result).Asks P) : (p >>= next).Asks P := by
  induction p with
  | done result => exact hnext result
  | call c rest ih => exact ⟨hp.1, fun found => ih found (hp.2 found)⟩

theorem asks_of_mem_history {p : Program α} (h : p.Asks P) {world : World} {event : Event}
    (hevent : event ∈ p.history answer world) : P event.call := by
  induction p generalizing world with
  | done result => cases hevent
  | call c rest ih =>
      rcases List.mem_cons.mp hevent with rfl | hlater
      · exact h.1
      · exact ih _ (h.2 _) hlater

/-! ## What a program may come to -/

/-- Every result that a program ends with has a property, whatever is found on the way. -/
def Returns (Q : α → Prop) : Program α → Prop
  | .done result => Q result
  | .call _ next => ∀ found, (next found).Returns Q

@[simp] theorem returns_pure (Q : α → Prop) (result : α) :
    (pure result : Program α).Returns Q ↔ Q result :=
  .rfl

theorem returns_ask_bind {c : Call} {Q : β → Prop}
    {next : Except RemoteError c.Answer → Program β} :
    (ask c >>= next).Returns Q ↔ ∀ found, (next found).Returns Q :=
  .rfl

theorem returns_bind {p : Program α} {next : α → Program β} {Q : α → Prop} {T : β → Prop}
    (hp : p.Returns Q) (hnext : ∀ result, Q result → (next result).Returns T) :
    (p >>= next).Returns T := by
  induction p with
  | done result => exact hnext result hp
  | call c rest ih => exact fun found => ih found (hp found)

theorem returns_run {p : Program α} {Q : α → Prop} (h : p.Returns Q) (world : World) :
    Q (p.run answer world).1 := by
  induction p generalizing world with
  | done result => exact h
  | call c rest ih => exact ih _ (h _) _

/-! ## What a program overlooks -/

/-- Which answers to a call differ in nothing that matters. -/
abbrev AnswerRelation : Type :=
  (c : Call) → Except RemoteError c.Answer → Except RemoteError c.Answer → Prop

/-- A program goes on in the same way whichever of two related answers it finds. -/
def Overlooks (related : AnswerRelation) : Program α → Prop
  | .done _ => True
  | .call c next =>
      (∀ found other, related c found other → next found = next other) ∧
        ∀ found, (next found).Overlooks related

section

variable {related : AnswerRelation}

@[simp] theorem overlooks_pure (result : α) : (pure result : Program α).Overlooks related :=
  trivial

theorem overlooks_ask_bind {c : Call} {next : Except RemoteError c.Answer → Program β} :
    (ask c >>= next).Overlooks related ↔
      (∀ found other, related c found other → next found = next other) ∧
        ∀ found, (next found).Overlooks related :=
  .rfl

theorem overlooks_bind {p : Program α} {next : α → Program β} (hp : p.Overlooks related)
    (hnext : ∀ result, (next result).Overlooks related) : (p >>= next).Overlooks related := by
  induction p with
  | done result => exact hnext result
  | call c rest ih =>
      refine ⟨fun found other hrelated => ?_, fun found => ih found (hp.2 found)⟩
      have hsame := hp.1 found other hrelated
      exact congrArg (·.bind next) hsame

variable {Other : Type} {reply : (c : Call) → Other → Except RemoteError c.Answer × Other}
  {link : World → Other → Prop}

/-- In linked worlds the answers to every call are related, and the worlds stay linked. -/
def AnswersRelated (related : AnswerRelation) (link : World → Other → Prop)
    (answer : (c : Call) → World → Except RemoteError c.Answer × World)
    (reply : (c : Call) → Other → Except RemoteError c.Answer × Other) : Prop :=
  ∀ c world other, link world other →
    related c (answer c world).1 (reply c other).1 ∧ link (answer c world).2 (reply c other).2

/-- Worlds that differ in what a program overlooks are asked the same and bring it to the same. -/
theorem run_of_overlooks {p : Program α} (h : p.Overlooks related)
    (hrelated : AnswersRelated related link answer reply) {world : World} {other : Other}
    (hlink : link world other) :
    (p.history answer world).map Event.call = (p.history reply other).map Event.call ∧
      (p.run answer world).1 = (p.run reply other).1 ∧
      link (p.run answer world).2 (p.run reply other).2 := by
  induction p generalizing world other with
  | done result => exact ⟨rfl, rfl, hlink⟩
  | call c next ih =>
      obtain ⟨hfound, hafter⟩ := hrelated c world other hlink
      have hnext := h.1 _ _ hfound
      obtain ⟨hcalls, hresult, hend⟩ := ih _ (h.2 _) hafter
      simp only [history, run, List.map_cons, ← hnext]
      exact ⟨congrArg _ hcalls, hresult, hend⟩

end

end Program

end SchemaKeeper

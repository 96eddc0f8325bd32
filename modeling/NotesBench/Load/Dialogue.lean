import NotesBench.Load.Check
import NotesBench.Load.Client

/-!
# Dialogues

A dialogue is a program that asks a service, records results of checks and ends with a value. It
says nothing about how the service answers: what follows a request is given for every delivery.
`run` holds a dialogue with a target, which is any machine that answers requests; `Course` says
which courses a dialogue can take, whoever answers.

A response is taken as final. Redirects are left out: where one is followed, the requests that it
leads to belong to the target, and the delivery is what comes back in the end.
-/

namespace NotesBench.Load

/-- A program that asks a service and records results. -/
inductive Dialogue (α : Type) where
  | done (a : α)
  | record (r : Record) (next : Dialogue α)
  | ask (out : Outgoing) (next : Delivery → Dialogue α)

namespace Dialogue

variable {α β : Type}

/-- Goes on with the value at the end. -/
protected def bind (d : Dialogue α) (f : α → Dialogue β) : Dialogue β :=
  match d with
  | .done a => f a
  | .record r next => .record r (next.bind f)
  | .ask out next => .ask out fun delivery => (next delivery).bind f

instance : Monad Dialogue where
  pure := .done
  bind := Dialogue.bind

/-- Records results one after the other. -/
def records : List Record → Dialogue Unit
  | [] => .done ()
  | r :: rest => .record r (records rest)

/-- Asks the service and takes the reply, or the fault of a request that was not answered. A
request that cannot be written is a fault at once. -/
def call (c : Client) (call : Call) : Dialogue (Except Fault Reply) :=
  match c.build call with
  | .error problem => .done (.error problem.fault)
  | .ok out => .ask out fun
    | .ok response => .done (.ok (Reply.ofResponse response))
    | .error loss => .done (.error (loss.fault out))

@[simp] theorem pure_eq (a : α) : (pure a : Dialogue α) = .done a := rfl

@[simp] theorem done_bind (a : α) (f : α → Dialogue β) : (done a >>= f) = f a := rfl

@[simp] theorem record_bind (r : Record) (d : Dialogue α) (f : α → Dialogue β) :
    (record r d >>= f) = record r (d >>= f) := rfl

@[simp] theorem ask_bind (out : Outgoing) (k : Delivery → Dialogue α) (f : α → Dialogue β) :
    (ask out k >>= f) = ask out fun delivery => k delivery >>= f := rfl

theorem bind_done (d : Dialogue α) : d.bind .done = d := by
  induction d with
  | done a => rfl
  | record r next ih => exact congrArg (record r) ih
  | ask out next ih => exact congrArg (ask out) (funext ih)

protected theorem bind_assoc {γ : Type} (d : Dialogue α) (f : α → Dialogue β)
    (g : β → Dialogue γ) : (d.bind f).bind g = d.bind fun a => (f a).bind g := by
  induction d with
  | done a => rfl
  | record r next ih => exact congrArg (record r) ih
  | ask out next ih => exact congrArg (ask out) (funext ih)

instance : LawfulMonad Dialogue :=
  LawfulMonad.mk' Dialogue bind_done (fun _ _ => rfl) Dialogue.bind_assoc

/-! ## Holding a dialogue -/

/-- Something that happens in a dialogue. -/
inductive Event where
  | recorded (r : Record)
  | asked (out : Outgoing) (delivery : Delivery)
  deriving Repr

/-- The course of a dialogue: what happens, and the value at its end. -/
inductive Course : Dialogue α → List Event → α → Prop where
  | done (a : α) : Course (.done a) [] a
  | record {r : Record} {next : Dialogue α} {events : List Event} {a : α} :
    Course next events a → Course (.record r next) (.recorded r :: events) a
  | ask {out : Outgoing} {next : Delivery → Dialogue α} {events : List Event} {a : α}
    (delivery : Delivery) :
    Course (next delivery) events a → Course (.ask out next) (.asked out delivery :: events) a

def recordsOf (events : List Event) : List Record :=
  events.filterMap fun
    | .recorded r => some r
    | .asked .. => none

def requestsOf (events : List Event) : List Outgoing :=
  events.filterMap fun
    | .recorded _ => none
    | .asked out _ => some out

end Dialogue

/-- A machine that answers requests. -/
structure Target (σ : Type) where
  respond : Outgoing → σ → Delivery × σ

def Dialogue.run {α σ : Type} (t : Target σ) : Dialogue α → σ → α × List Event × σ
  | .done a, s => (a, [], s)
  | .record r next, s =>
    let (a, events, s) := next.run t s
    (a, .recorded r :: events, s)
  | .ask out next, s =>
    let (delivery, s) := t.respond out s
    let (a, events, s) := (next delivery).run t s
    (a, .asked out delivery :: events, s)

/-- Whatever the target, a dialogue takes one of its courses. -/
theorem Dialogue.course_run {α σ : Type} (t : Target σ) (d : Dialogue α) (s : σ) :
    Course d (d.run t s).2.1 (d.run t s).1 := by
  induction d generalizing s with
  | done a => exact .done a
  | record r next ih => exact .record (ih s)
  | ask out next ih => exact .ask _ (ih _ _)

end NotesBench.Load

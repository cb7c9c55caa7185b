import HeapTables.Event

/-! Results with the events that led to them, oldest first. Events are never
withdrawn: a miss that a caller recovers from stays reported. -/
namespace HeapTables

structure Logged (α : Type) where
  value : α
  events : List Event
  deriving DecidableEq, Repr

namespace Logged
variable {α β : Type}

instance : Monad Logged where
  pure a := ⟨a, []⟩
  bind x f := ⟨(f x.value).value, x.events ++ (f x.value).events⟩

@[simp] theorem valuePure (a : α) : (pure a : Logged α).value = a := rfl

@[simp] theorem eventsPure (a : α) : (pure a : Logged α).events = [] := rfl

@[simp] theorem valueBind (x : Logged α) (f : α → Logged β) :
    (x >>= f).value = (f x.value).value := rfl

@[simp] theorem eventsBind (x : Logged α) (f : α → Logged β) :
    (x >>= f).events = x.events ++ (f x.value).events := rfl

def collect (results : List (Logged (Option α))) : Logged (List α) :=
  ⟨results.filterMap (·.value), results.flatMap (·.events)⟩

end Logged

abbrev Lookup := ExceptT Miss Logged

namespace Lookup
variable {α β : Type}

def answer (x : Lookup α) : Except Miss α := x.run.value

def events (x : Lookup α) : List Event := x.run.events

def miss (m : Miss) : Lookup α := ExceptT.mk ⟨.error m, [.missed m]⟩

def found (value? : Option α) (m : Miss) : Lookup α :=
  match value? with
  | some value => pure value
  | none => miss m

def toOption (x : Lookup α) : Logged (Option α) := Except.toOption <$> x.run

def getD (x : Lookup α) (fallback : α) : Logged α := (·.getD fallback) <$> x.toOption

@[simp] theorem answerPure (a : α) : answer (pure a) = .ok a := rfl

@[simp] theorem eventsPure (a : α) : events (pure a) = [] := rfl

@[simp] theorem answerMiss (m : Miss) : answer (miss m : Lookup α) = .error m := rfl

@[simp] theorem eventsMiss (m : Miss) : events (miss m : Lookup α) = [.missed m] := rfl

@[simp] theorem foundSome (a : α) (m : Miss) : found (some a) m = pure a := rfl

@[simp] theorem foundNone (m : Miss) : (found none m : Lookup α) = miss m := rfl

@[simp] theorem answerFoundOk {value? : Option α} {m : Miss} {a : α} :
    answer (found value? m) = .ok a ↔ value? = some a := by
  cases value? <;> simp

@[simp] theorem answerFoundError {value? : Option α} {m missed : Miss} :
    answer (found value? m) = .error missed ↔ value? = none ∧ missed = m := by
  cases value? <;> simp [eq_comm]

@[simp] theorem answerMap (f : α → β) (x : Lookup α) : answer (f <$> x) = x.answer.map f := by
  obtain ⟨result, before⟩ := x
  cases result <;> rfl

@[simp] theorem eventsMap (f : α → β) (x : Lookup α) : events (f <$> x) = x.events := by
  obtain ⟨result, before⟩ := x
  cases result <;> exact List.append_nil before

@[simp] theorem answerBind (x : Lookup α) (f : α → Lookup β) :
    answer (x >>= f) = x.answer.bind (fun a => (f a).answer) := by
  obtain ⟨result, before⟩ := x
  cases result <;> rfl

theorem eventsBindOk {x : Lookup α} {a : α} (hit : x.answer = .ok a) (f : α → Lookup β) :
    events (x >>= f) = x.events ++ (f a).events := by
  obtain ⟨result, before⟩ := x
  cases hit
  rfl

theorem eventsBindError {x : Lookup α} {m : Miss} (missed : x.answer = .error m)
    (f : α → Lookup β) : events (x >>= f) = x.events := by
  obtain ⟨result, before⟩ := x
  cases missed
  exact List.append_nil before

theorem bindAgree {x : Lookup α} {f g : α → Lookup β}
    (agree : ∀ a, x.answer = .ok a → f a = g a) : x >>= f = x >>= g := by
  obtain ⟨result, before⟩ := x
  cases result with
  | error missed => rfl
  | ok a =>
    change (⟨(f a).answer, before ++ (f a).events⟩ : Logged (Except Miss β)) =
      ⟨(g a).answer, before ++ (g a).events⟩
    rw [agree a rfl]

theorem mapAgree {x : Lookup α} {f g : α → β}
    (agree : ∀ a, x.answer = .ok a → f a = g a) : f <$> x = g <$> x := by
  obtain ⟨result, before⟩ := x
  cases result with
  | error missed => rfl
  | ok a =>
    change (⟨.ok (f a), before ++ []⟩ : Logged (Except Miss β)) = ⟨.ok (g a), before ++ []⟩
    rw [agree a rfl]

theorem answerOrElse (x y : Lookup α) :
    answer (x <|> y) = match x.answer with
      | .ok a => .ok a
      | .error _ => y.answer := by
  obtain ⟨result, before⟩ := x
  cases result <;> rfl

theorem eventsOrElse (x y : Lookup α) :
    events (x <|> y) = match x.answer with
      | .ok _ => x.events
      | .error _ => x.events ++ y.events := by
  obtain ⟨result, before⟩ := x
  cases result
  · rfl
  · exact List.append_nil before

@[simp] theorem valueToOption (x : Lookup α) : x.toOption.value = x.answer.toOption := rfl

@[simp] theorem eventsToOption (x : Lookup α) : x.toOption.events = x.events :=
  List.append_nil _

@[simp] theorem valueGetD (x : Lookup α) (fallback : α) :
    (x.getD fallback).value = x.answer.toOption.getD fallback := rfl

@[simp] theorem eventsGetD (x : Lookup α) (fallback : α) : (x.getD fallback).events = x.events := by
  simp [getD, Functor.map]

end Lookup
end HeapTables

import Ambient.Proofs.Holding

namespace Ambient

/-- What the body of a task does with a cell. What comes after a reading may depend on what was
read. The tokens a task has not handed back are numbered, the oldest first, and so are all guards
that it has activated. -/
inductive Script where
  | done
  | pause (next : Script)
  | current (next : Context → Script)
  | snapshot (next : Option Context → Script)
  | set (c : Context) (next : Script)
  | remove (next : Script)
  | restore (c : Option Context) (next : Script)
  | attach (c : Context) (next : Script)
  | detach (token : Nat) (next : Script)
  | activate (c : Context) (next : Script)
  | finish (guard : Nat) (next : Script)

inductive Reading where
  | current (c : Context)
  | snapshot (c : Option Context)

structure Own where
  tokens : List Token
  guards : List Guard
  seen : List Reading

namespace Own

def start : Own := ⟨[], [], []⟩

def see (own : Own) (x : Reading) : Own := { own with seen := own.seen ++ [x] }

def detach (r : Cell) (i : Nat) (own : Own) (s : Site) : Own × Site :=
  match own.tokens[i]? with
  | none => (own, s)
  | some t => ({ own with tokens := own.tokens.eraseIdx i }, r.detach t s)

def finish (i : Nat) (own : Own) (s : Site) : Own × Site :=
  ({ own with guards := (Guard.finishAt i own.guards s).1 }, (Guard.finishAt i own.guards s).2)

structure Plain (r : Cell) (own : Own) : Prop where
  tokens : ∀ t ∈ own.tokens, r.PlainToken t
  guards : ∀ g ∈ own.guards, r.PlainGuard g

end Own

/-- Follows a script to its next pause, of which the rest is returned, or to its end, where the
guards are finished, the newest first. -/
def Script.follow (r : Cell) : Script → Own → Site → (Option Script × Own) × Site
  | .done, own, s => ((none, { own with guards := [] }), Guard.finishAll own.guards.reverse s)
  | .pause next, own, s => ((some next, own), s)
  | .current next, own, s => (next (r.current s)).follow r (own.see (.current (r.current s))) s
  | .snapshot next, own, s => (next (r.binding s)).follow r (own.see (.snapshot (r.binding s))) s
  | .set c next, own, s => next.follow r own (r.set c s)
  | .remove next, own, s => next.follow r own (r.remove s)
  | .restore c next, own, s => next.follow r own (r.restore c s)
  | .attach c next, own, s =>
    next.follow r { own with tokens := own.tokens ++ [(r.attach c s).1] } (r.attach c s).2
  | .detach i next, own, s => next.follow r (own.detach r i s).1 (own.detach r i s).2
  | .activate c next, own, s =>
    next.follow r { own with guards := own.guards ++ [(Guard.activate r c s).1] }
      (Guard.activate r c s).2
  | .finish i next, own, s => next.follow r (own.finish i s).1 (own.finish i s).2

@[simp] theorem Own.registry_detach (r : Cell) (i : Nat) (own : Own) (s : Site) :
    (own.detach r i s).2.registry = s.registry := by
  rw [Own.detach]
  cases own.tokens[i]? with
  | none => rfl
  | some t => exact Cell.registry_detach r t s

@[simp] theorem Own.registry_finish (i : Nat) (own : Own) (s : Site) :
    (own.finish i s).2.registry = s.registry := Guard.registry_finishAt i own.guards s

@[simp] theorem Script.registry_follow (r : Cell) (script : Script) (own : Own) (s : Site) :
    (script.follow r own s).2.registry = s.registry := by
  induction script generalizing own s with
  | done => exact Guard.registry_finishAll own.guards.reverse s
  | pause next => rfl
  | current next ih => rw [follow, ih]
  | snapshot next ih => rw [follow, ih]
  | set c next ih => rw [follow, ih, Cell.registry_set]
  | remove next ih => rw [follow, ih, Cell.registry_remove]
  | restore c next ih => rw [follow, ih, Cell.registry_restore]
  | attach c next ih => rw [follow, ih, Cell.registry_attach]
  | detach i next ih => rw [follow, ih, Own.registry_detach]
  | activate c next ih => rw [follow, ih, Guard.registry_activate]
  | finish i next ih => rw [follow, ih, Own.registry_finish]

variable {r : Cell} {s t : Site} {own : Own}

theorem Own.Plain.start (r : Cell) : Own.start.Plain r := ⟨by simp [Own.start], by simp [Own.start]⟩

theorem Own.Plain.attach (h : own.Plain r) (c : Option Context) :
    Own.Plain r { own with tokens := own.tokens ++ [⟨r.id, c, none⟩] } := by
  refine ⟨?_, h.guards⟩
  rw [List.forall_mem_append, List.forall_mem_singleton]
  exact ⟨h.tokens, rfl, rfl⟩

theorem Own.Plain.activate (h : own.Plain r) (c : Option Context) :
    Own.Plain r { own with guards := own.guards ++ [⟨r, some ⟨r.id, c, none⟩⟩] } := by
  refine ⟨h.tokens, ?_⟩
  rw [List.forall_mem_append, List.forall_mem_singleton]
  exact ⟨h.guards, Cell.PlainGuard.begun r c⟩

theorem Own.Plain.detach (h : own.Plain r) (ha : r.Agree s t) (i : Nat) :
    (own.detach r i s).1 = (own.detach r i t).1 ∧ (own.detach r i s).1.Plain r ∧
      r.Agree (own.detach r i s).2 (own.detach r i t).2 := by
  rw [Own.detach, Own.detach]
  cases hi : own.tokens[i]? with
  | none => exact ⟨rfl, h, ha⟩
  | some k =>
    have hk := h.tokens k (List.mem_of_getElem? hi)
    refine ⟨rfl, ⟨fun u hu => h.tokens u (List.mem_of_mem_eraseIdx hu), h.guards⟩, ?_⟩
    simp only [ha.left.detach_eq hk, ha.right.detach_eq hk]
    exact ha.restore _

theorem Own.Plain.finish (h : own.Plain r) (ha : r.Agree s t) (i : Nat) :
    (own.finish i s).1 = (own.finish i t).1 ∧ (own.finish i s).1.Plain r ∧
      r.Agree (own.finish i s).2 (own.finish i t).2 := by
  obtain ⟨same, agree⟩ := ha.finishAt h.guards i
  refine ⟨?_, ⟨h.tokens, ha.left.plain_finishAt h.guards i⟩, agree⟩
  simp only [Own.finish, same]

/-- A script cannot tell agreeing units apart, and leaves them agreeing. -/
theorem Script.follow_agree (script : Script) (h : own.Plain r) (ha : r.Agree s t) :
    (script.follow r own s).1 = (script.follow r own t).1 ∧
      (script.follow r own s).1.2.Plain r ∧
      r.Agree (script.follow r own s).2 (script.follow r own t).2 := by
  induction script generalizing own s t with
  | done =>
    refine ⟨rfl, ⟨h.tokens, by simp [follow]⟩, ?_⟩
    exact ha.finishAll fun g hg => h.guards g (List.mem_reverse.1 hg)
  | pause next => exact ⟨rfl, h, ha⟩
  | current next ih =>
    simp only [follow, ha.current]
    exact ih _ ⟨h.tokens, h.guards⟩ ha
  | snapshot next ih =>
    simp only [follow, ha.binding]
    exact ih _ ⟨h.tokens, h.guards⟩ ha
  | set c next ih =>
    simp only [follow, ha.left.set_eq, ha.right.set_eq]
    exact ih h (ha.restore _)
  | remove next ih =>
    simp only [follow, ha.left.remove_eq, ha.right.remove_eq]
    exact ih h (ha.restore _)
  | restore c next ih => exact ih h (ha.restore c)
  | attach c next ih =>
    simp only [follow, ha.left.attach_eq, ha.right.attach_eq, ha.binding]
    exact ih (h.attach _) (ha.restore _)
  | detach i next ih =>
    obtain ⟨same, plain, agree⟩ := h.detach ha i
    simp only [follow, same]
    exact ih (same ▸ plain) agree
  | activate c next ih =>
    simp only [follow, ha.left.activate_eq, ha.right.activate_eq, ha.binding]
    exact ih (h.activate _) (ha.restore _)
  | finish i next ih =>
    obtain ⟨same, plain, agree⟩ := h.finish ha i
    simp only [follow, same]
    exact ih (same ▸ plain) agree

end Ambient

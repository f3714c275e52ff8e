import Ambient.Proofs.Commons
import Ambient.Proofs.Detachment

namespace Ambient

namespace Cell

variable {r : Cell} {s t : Site}

theorem binding_changeStack_of_framed (hs : r.strategy = .taskLocal) (framed : t.frame.isSome)
    (f : List Context → List Context) : r.binding (t.changeStack r.id f) = r.binding t := by
  obtain ⟨frame, hf⟩ := Option.isSome_iff_exists.1 framed
  have hf' : (t.changeStack r.id f).frame = some frame := hf
  simp only [binding, hs, hf, hf']

theorem Stacked.binding_detach_of_single (h : r.Stacked s) (ht : r.Single t) (c : Context) :
    r.binding (r.detach (r.attach c s).1 t) = r.binding t := by
  have cut : r.detach (r.attach c s).1 t =
      t.changeStack r.id (cutTo (s.stack r.id).length) := by
    simp only [h.attach_eq, detach, h.taskLocal, ne_eq, not_true_eq_false, if_false]
  rw [cut]
  exact binding_changeStack_of_framed h.taskLocal (ht.framed h.taskLocal) _

/-- Threads take no tokens of tasks. -/
theorem Single.detach_of_stacked (h : r.Single s) (ht : r.Stacked t) (c : Context) :
    r.detach (r.attach c s).1 t = t := by
  simp only [h.attach_eq, detach, ht.taskLocal, ht.unframed, ne_eq, not_true_eq_false, if_false]

theorem Single.binding_detach_of_single (h : r.Single s) (ht : r.Single t) (c : Context) :
    r.binding (r.detach (r.attach c s).1 t) = r.binding s := by
  rw [h.attach_eq, ht.detach_eq ⟨rfl, rfl⟩, binding_restore ht.live]

theorem Stacked.binding_detach_of_stacked (h : r.Stacked s) (ht : r.Stacked t) (c : Context) :
    r.binding (r.detach (r.attach c s).1 t) =
      (cutTo (s.stack r.id).length (t.stack r.id)).head? := by
  rw [h.attach_eq, ht.detach_issued, (ht.changeStack _).binding_eq, ht.stack_changeStack]

/-- A token that was issued at one site and is handed back at another changes nothing that is found
there, but for two cases: where both keep a single binding it has to be the same, and where both
keep a stack the second must not lose its top when it is cut to the height of the first. -/
theorem binding_detach_attach_iff (hs : s.isLive r.id) (ht : t.isLive r.id) (c : Context) :
    r.binding (r.detach (r.attach c s).1 t) = r.binding t ↔
      (r.Single s → r.Single t → r.binding s = r.binding t) ∧
        (r.Stacked s → r.Stacked t →
          (cutTo (s.stack r.id).length (t.stack r.id)).head? = (t.stack r.id).head?) := by
  rcases single_or_stacked hs with single | stacked
  · have unstacked : ¬ r.Stacked s := fun h => h.not_single single
    rcases single_or_stacked ht with single' | stacked'
    · simp [single.binding_detach_of_single single', single, single', unstacked]
    · simp [single.detach_of_stacked stacked', stacked'.not_single, unstacked]
  · rcases single_or_stacked ht with single' | stacked'
    · have unstacked : ¬ r.Stacked t := fun h => h.not_single single'
      simp [stacked.binding_detach_of_single single', stacked.not_single, unstacked]
    · rw [stacked.binding_detach_of_stacked stacked', stacked'.binding_eq]
      simp [stacked.not_single, stacked, stacked']

end Cell

namespace Commons

variable {w : Commons} {i : Nat} {r : Cell} {u v : Post} {s t : Site}

theorem Exchanged.getElem? {tokens tokens' : List (Option (Nat × Token))}
    (h : Exchanged i r tokens tokens') {k : Nat} {x : Option (Nat × Token)}
    (hx : tokens[k]? = some x) : tokens'[k]? = some x ∨ tokens'[k]? = some none := by
  have inside : k < tokens.length := (List.getElem?_eq_some_iff.1 hx).1
  cases h with
  | kept => exact .inl hx
  | issued => exact .inl ((List.getElem?_append_left inside).trans hx)
  | spent j =>
    by_cases same : j = k
    · subst same
      exact .inr (List.getElem?_set_self inside)
    · exact .inl ((List.getElem?_set_ne same).trans hx)

theorem tokens_step {k : Nat} {x : Option (Nat × Token)} (h : w.tokens[k]? = some x)
    (turn : Turn) : (w.step turn).tokens[k]? = some x ∨ (w.step turn).tokens[k]? = some none := by
  cases turn with
  | make k => exact .inl h
  | deed j u what =>
    rcases w.step_deed_cases j u what with nothing | ⟨q, s, -, -, -, performed⟩
    · rw [nothing]
      exact .inl h
    · rw [performed]
      exact (exchanged_perform w j q u s what).getElem? h

theorem tokens_run {k : Nat} {x : Option (Nat × Token)} (h : w.tokens[k]? = some x)
    (turns : List Turn) :
    (w.run turns).tokens[k]? = some x ∨ (w.run turns).tokens[k]? = some none := by
  induction turns generalizing w x with
  | nil => exact .inl h
  | cons turn turns ih =>
    rw [run_cons]
    rcases tokens_step h turn with kept | gone
    · exact ih kept
    · exact .inr (or_self_iff.1 (ih gone))

theorem step_detach (holds : w.Holds i r) (hv : w.site? v = some t) {k : Nat} {x : Nat × Token}
    (held : w.tokens[k]? = some (some x)) :
    (w.step (.deed i v (.detach k))).site? v = some (r.detach x.2 t) := by
  rw [step_deed holds hv, perform, held]
  exact site?_put_self hv (r.isSome_frame_detach x.2 t)

/-- In a process in which one unit has attached the cell, and anything has happened since but that
the token was handed back, another unit hands it back. What that unit finds in the cell stays the
same if and only if both units keep a single binding and the other had the same one when it
attached, or both keep a stack and this one keeps its top when it is cut to the height that the
other had, or one keeps a binding and the other a stack. -/
theorem binding_detach_elsewhere_iff (holds : w.Holds i r) (hu : w.site? u = some s) (c : Context)
    (between : List Turn) :
    let w' := (w.step (.deed i u (.attach c))).run between
    let k := w.tokens.length
    w'.Holds i r → w'.site? v = some t → w'.tokens[k]? ≠ some none →
      ∃ t', (w'.step (.deed i v (.detach k))).site? v = some t' ∧
        (r.binding t' = r.binding t ↔
          (r.Single s → r.Single t → r.binding s = r.binding t) ∧
            (r.Stacked s → r.Stacked t →
              (Cell.cutTo (s.stack r.id).length (t.stack r.id)).head? =
                (t.stack r.id).head?)) := by
  intro w' k holds' hv held
  have issued : (w.step (.deed i u (.attach c))).tokens[k]? =
      some (some (i, (r.attach c s).1)) := by
    rw [step_deed holds hu]
    exact List.getElem?_concat_length
  have token : w'.tokens[k]? = some (some (i, (r.attach c s).1)) :=
    (tokens_run issued between).resolve_right held
  exact ⟨_, step_detach holds' hv token,
    Cell.binding_detach_attach_iff (holds.isLive hu) (holds'.isLive hv) c⟩

theorem binding_detach_elsewhere_iff_two_tasks :
    let r : Cell := ⟨0, .taskLocal⟩
    let mark : Context := (∅ : Context).withShared "mark" ⟨0, ⟨.unit, ()⟩⟩
    let u : Post := ⟨0, some 0⟩
    let v : Post := ⟨0, some 1⟩
    let w := start.run [.make .taskLocal, .deed 0 ⟨0, none⟩ (.fork none),
      .deed 0 ⟨0, none⟩ (.fork none)]
    let w' := (w.step (.deed 0 u (.attach ∅))).run [.deed 0 v (.set mark)]
    w.Holds 0 r ∧ w'.Holds 0 r ∧ w'.tokens[0]? ≠ some none ∧
      ∃ s t t', w.site? u = some s ∧ w'.site? v = some t ∧ r.binding t = some mark ∧
        (w'.step (.deed 0 v (.detach 0))).site? v = some t' ∧ r.binding t' ≠ r.binding t := by
  intro r mark u v w w'
  have holds : w.Holds 0 r := ⟨by cbv, by cbv⟩
  have holds' : w'.Holds 0 r := ⟨by cbv, by cbv⟩
  have issued : w'.tokens[0]? = some (some (0, ⟨0, none, none⟩)) := by cbv
  have held : w'.tokens[0]? ≠ some none := by simp [issued]
  obtain ⟨own, hk⟩ : ∃ frame, w.frames[0]? = some frame :=
    Option.isSome_iff_exists.1 (by cbv)
  obtain ⟨own', hk'⟩ : ∃ frame, w'.frames[1]? = some frame :=
    Option.isSome_iff_exists.1 (by cbv)
  have unbound : own[0]? = none := by
    have : w.frames[0]?.map (·[0]?) = some none := by cbv
    simpa [hk] using this
  have bound : own'[0]? = some mark := by
    have : w'.frames[1]?.map (·[0]?) = some (some mark) := by cbv
    simpa [hk'] using this
  have hu : w.site? u = some ⟨w.registry, w.threads 0, some own⟩ := site?_of_frame hk
  have hv : w'.site? v = some ⟨w'.registry, w'.threads 0, some own'⟩ := site?_of_frame hk'
  obtain ⟨t', found, same⟩ := binding_detach_elsewhere_iff holds hu ∅ _ holds' hv held
  refine ⟨holds, holds', held, _, _, t', hu, hv, bound, found, ?_⟩
  rw [Ne, same]
  intro agree
  have equal : own[0]? = own'[0]? :=
    agree.1 ⟨holds.isLive hu, fun _ => rfl⟩ ⟨holds'.isLive hv, fun _ => rfl⟩
  cases unbound.symm.trans (equal.trans bound)

end Commons
end Ambient

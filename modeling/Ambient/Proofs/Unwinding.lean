import Ambient.Proofs.Activation
import Ambient.Proofs.Deeds

namespace Ambient

/-- Only sets and attaches, or hands back a token. It is not one of the given tokens, unless it was
issued on a stack of some height or on a higher one. -/
def Deed.StaysAbove (height : Nat) (tokens : List (Option (Nat × Token))) : Deed → Prop
  | .set _ | .attach _ => True
  | .detach j => ∀ x, tokens[j]? = some (some x) →
    ∃ depth, x.2.depth = some depth ∧ height ≤ depth
  | _ => False

theorem Deed.StaysAbove.ordinary {height : Nat} {tokens : List (Option (Nat × Token))} {d : Deed}
    (h : d.StaysAbove height tokens) : d.Ordinary := by
  cases d with
  | set c | attach c | detach j => trivial
  | remove | restore c | fork c | retire => exact h.elim

theorem Cell.Above.detach {r : Cell} {m : Storage} {s : Site} (h : r.Above m s) {t : Token}
    (deep : ∃ depth, t.depth = some depth ∧ m.stack.length ≤ depth) :
    r.Above m (r.detach t s) := by
  obtain ⟨depth, ht, high⟩ := deep
  by_cases issued : t.issuer = r.id
  · rw [h.stacked.detach_eq issued ht]
    exact h.cut high
  · rw [detach_of_ne issued]
    exact h

namespace Commons

/-- The unit keeps what it kept once under what came onto its stack since. Any token is one of those
that there were, or was issued since. -/
structure Piled (i : Nat) (r : Cell) (u : Post) (m : Storage)
    (older : List (Option (Nat × Token))) (w : Commons) : Prop where
  holds : w.Holds i r
  site : ∃ s, w.site? u = some s ∧ r.Above m s
  token {j : Nat} {x : Nat × Token} : w.tokens[j]? = some (some x) →
    older[j]? = some (some x) ∨ r.TokenAbove m.stack.length x.2

variable {w : Commons} {i : Nat} {r : Cell} {u : Post} {s : Site} {m : Storage} {d : Deed}
  {older : List (Option (Nat × Token))} {deeds : List Deed}

namespace Piled

theorem deep (h : Piled i r u m older w) {j : Nat}
    (stays : (Deed.detach j).StaysAbove m.stack.length older) {x : Nat × Token}
    (hx : w.tokens[j]? = some (some x)) :
    ∃ depth, x.2.depth = some depth ∧ m.stack.length ≤ depth := by
  rcases h.token hx with old | new
  · exact stays x old
  · exact new.2

theorem above_act (h : Piled i r u m older w) (above : r.Above m s)
    (stays : d.StaysAbove m.stack.length older) : r.Above m (d.act r w.tokens s) := by
  cases d with
  | set c =>
    rw [Deed.act, above.stacked.set_eq]
    exact above.push c
  | attach c => exact (above.activate c).2
  | detach j =>
    by_cases present : ∃ x, w.tokens[j]? = some (some x)
    · obtain ⟨x, hx⟩ := present
      rw [Deed.act_detach hx]
      exact above.detach (h.deep stays hx)
    · rw [Deed.act_detach_of_absent (not_exists.1 present)]
      exact above
  | remove | restore c | fork c | retire => exact stays.elim

theorem step (h : Piled i r u m older w) (stays : d.StaysAbove m.stack.length older) :
    Piled i r u m older (w.step (.deed i u d)) := by
  obtain ⟨s, hu, above⟩ := h.site
  have ordinary := stays.ordinary
  refine ⟨h.holds.deed hu ordinary, ⟨_, site?_deed h.holds hu ordinary, h.above_act above stays⟩, ?_⟩
  intro j x hx
  rw [tokens_deed h.holds hu] at hx
  rcases Deed.getElem?_exchange hx with old | ⟨c, -, rfl⟩
  · exact h.token old
  · -- The new token is as deep as the stack is high, and all that was there is still on it.
    rw [above.stacked.attach_eq]
    exact .inr ⟨rfl, _, rfl, above.length_le⟩

theorem does (h : Piled i r u m older w)
    (stays : ∀ d ∈ deeds, d.StaysAbove m.stack.length older) :
    Piled i r u m older (w.does i u deeds) := by
  induction deeds generalizing w with
  | nil => exact h
  | cons d deeds ih =>
    simp only [List.mem_cons, forall_eq_or_imp] at stays
    exact ih (h.step stays.1) stays.2

theorem start (holds : w.Holds i r) (hu : w.site? u = some s) (stacked : r.Stacked s) :
    Piled i r u (r.storage s) w.tokens w :=
  ⟨holds, ⟨s, hu, stacked.above⟩, .inl⟩

theorem handBack (h : Piled i r u m older w) (hu : w.site? u = some s) (bare : r.storage s = m)
    {later : List Nat} (new : ∀ j ∈ later, older.length ≤ j) :
    ∃ t, (w.does i u (later.map .detach)).site? u = some t ∧ r.storage t = m := by
  induction later generalizing w s with
  | nil => exact ⟨s, hu, bare⟩
  | cons j later ih =>
    simp only [List.mem_cons, forall_eq_or_imp] at new
    have stays : (Deed.detach j).StaysAbove m.stack.length older := by
      intro x hx
      rw [List.getElem?_eq_none new.1] at hx
      cases hx
    apply ih (h.step stays) (site?_deed h.holds hu (d := .detach j) trivial) ?_ new.2
    obtain ⟨s', there, above⟩ := h.site
    obtain rfl : s = s' := Option.some.inj (hu.symm.trans there)
    by_cases present : ∃ x, w.tokens[j]? = some (some x)
    · obtain ⟨x, hx⟩ := present
      obtain ⟨depth, deep, high⟩ := h.deep stays hx
      rw [Deed.act_detach hx]
      by_cases issued : x.2.issuer = r.id
      · rw [above.stacked.detach_eq issued deep, above.stacked.storage_changeStack, bare,
          Cell.cutTo_of_length_le high]
      · rw [Cell.detach_of_ne issued]
        exact bare
    · rw [Deed.act_detach_of_absent (not_exists.1 present)]
      exact bare

end Piled

/-- A thread outside tasks attaches a task-local cell. Whatever it sets, attaches and detaches since,
in any order, all that was on its stack stays below the rest, if it hands back no older token that
was issued on a lower stack. When the token of that attachment is handed back, everything is as
before, and tokens that were issued since change nothing any more. -/
theorem stack_unwinds (holds : w.Holds i r) (hu : w.site? u = some s) (stacked : r.Stacked s)
    (c : Context) (stays : ∀ d ∈ deeds, d.StaysAbove (s.stack r.id).length w.tokens) :
    let w₁ := w.step (.deed i u (.attach c))
    let k := w.tokens.length
    (∀ earlier, earlier <+: deeds →
      ∃ t, (w₁.does i u earlier).site? u = some t ∧ s.stack r.id <:+ t.stack r.id) ∧
      (.detach k ∉ deeds →
        let w₂ := (w₁.does i u deeds).step (.deed i u (.detach k))
        ∃ t, w₂.site? u = some t ∧ r.storage t = r.storage s ∧
          ∀ later : List Nat, (∀ j ∈ later, k < j) →
            ∃ t', (w₂.does i u (later.map .detach)).site? u = some t' ∧
              r.storage t' = r.storage s) := by
  intro w₁ k
  have attached : Piled i r u (r.storage s) w.tokens w₁ := (Piled.start holds hu stacked).step trivial
  constructor
  · intro earlier before
    obtain ⟨t, ht, kept⟩ := (attached.does fun d hd => stays d (before.subset hd)).site
    obtain ⟨above, hs⟩ := kept.storage
    exact ⟨t, ht, above, (congrArg Storage.stack hs).symm⟩
  · intro kept w₂
    have piled := attached.does stays
    obtain ⟨t, ht, above⟩ := piled.site
    have issued : w₁.tokens[k]? = some (some (i, (r.attach c s).1)) := by
      rw [tokens_deed holds hu]
      exact List.getElem?_concat_length
    have token := tokens_does attached.holds (site?_deed holds hu trivial)
      (fun d hd => (stays d hd).ordinary) issued kept
    have deep : (r.attach c s).1.depth = some (s.stack r.id).length := by
      simp only [stacked.attach_eq]
    have hu₂ : w₂.site? u = some (r.detach (r.attach c s).1 t) := by
      rw [site?_deed (d := .detach k) piled.holds ht trivial, Deed.act_detach token]
    have bare : r.storage (r.detach (r.attach c s).1 t) = r.storage s := by
      rw [above.stacked.detach_eq rfl deep]
      exact above.storage_cut
    have none_older : (Deed.detach k).StaysAbove (r.storage s).stack.length w.tokens := by
      intro x hx
      rw [List.getElem?_eq_none (Nat.le_refl k)] at hx
      cases hx
    refine ⟨_, hu₂, bare, fun later new => ?_⟩
    exact (piled.step none_older).handBack hu₂ bare fun j hj => Nat.le_of_lt (new j hj)

theorem stack_unwinds_out_of_order :
    let r : Cell := ⟨0, .taskLocal⟩
    let mark : Context := (∅ : Context).withShared "mark" ⟨0, ⟨.unit, ()⟩⟩
    let u : Post := ⟨0, none⟩
    let w := (start.step (.make .taskLocal)).does 0 u [.set mark, .attach ∅, .restore mark]
    let s : Site := ⟨w.registry, w.threads 0, none⟩
    let k := w.tokens.length
    let deeds : List Deed := [.attach ∅, .set ∅, .attach ∅, .detach 2, .detach 0]
    let w₂ := ((w.step (.deed 0 u (.attach mark))).does 0 u deeds).step (.deed 0 u (.detach k))
    w.Holds 0 r ∧ w.site? u = some s ∧ r.Stacked s ∧
      (∀ d ∈ deeds, d.StaysAbove (s.stack r.id).length w.tokens) ∧ k = 1 ∧ .detach k ∉ deeds ∧
      ∃ t, (w₂.does 0 u [.detach 3]).site? u = some t ∧ r.storage t = ⟨none, [mark], none⟩ := by
  intro r mark u w s k deeds w₂
  have holds : w.Holds 0 r := ⟨by cbv, by cbv⟩
  have stacked : r.Stacked s := ⟨holds.2, rfl, rfl⟩
  have found : r.storage s = ⟨none, [mark], none⟩ := by cbv
  have older : w.tokens = [some (0, ⟨0, some mark, some 1⟩)] := by cbv
  have count : k = 1 := congrArg List.length older
  have height : (s.stack r.id).length = 1 := congrArg (·.stack.length) found
  have stays : ∀ d ∈ deeds, d.StaysAbove (s.stack r.id).length w.tokens := by
    simp [deeds, Deed.StaysAbove, older, height]
  have kept : .detach k ∉ deeds := by simp [deeds, count]
  obtain ⟨t, -, -, unchanged⟩ := (stack_unwinds (u := u) holds rfl stacked mark stays).2 kept
  obtain ⟨t', there, same⟩ := unchanged [3] (by simp [count, k])
  exact ⟨holds, rfl, stacked, stays, count, kept, t', there, same.trans found⟩

end Commons
end Ambient

import Mathlib.Data.List.Permutation
import Ambient.Proofs.Deeds

namespace Ambient

/-- A map that a unit keeps bindings in: the slots or the stacks of its thread, or its frame. -/
inductive Store where
  | slot | stack | frame

def Site.Keeps (s : Site) (id : Nat) : Store → Prop
  | .slot => id ∈ s.thread.slots
  | .stack => id ∈ s.thread.stackOf
  | .frame => ∃ frame, s.frame = some frame ∧ id ∈ frame

/-- From one site to the other a map was written to. If it is one of the thread, an entry that it had for
the cell is gone. -/
def Site.Swept (id : Nat) (target : Store) (s t : Site) : Prop :=
  ∀ m, t.Keeps id m ↔ s.Keeps id m ∧ (m ≠ target ∨ m = .frame)

/-- The map that the unit keeps the content of the cell in. -/
def Cell.store (r : Cell) (s : Site) : Store :=
  match r.strategy, s.frame with
  | .threadLocal, _ => .slot
  | .taskLocal, some _ => .frame
  | .taskLocal, none => .stack

/-- The map that is written to when a token is handed back, if it is not ignored. -/
def Cell.storeOfToken? (r : Cell) (t : Token) (s : Site) : Option Store :=
  if t.issuer ≠ r.id then none
  else
    match r.strategy, t.depth, s.frame with
    | .threadLocal, _, _ => some .slot
    | .taskLocal, some _, _ => some .stack
    | .taskLocal, none, some _ => some .frame
    | .taskLocal, none, none => none

/-- The map that a deed writes to, if it writes. -/
def Deed.store? (r : Cell) (tokens : List (Option (Nat × Token))) (s : Site) : Deed → Option Store
  | .set _ | .remove | .restore _ | .attach _ => some (r.store s)
  | .detach j =>
    match tokens[j]? with
    | some (some (_, t)) => r.storeOfToken? t s
    | _ => none
  | .fork _ | .retire => none

variable {q r : Cell} {s t : Site} {id : Nat}

namespace Site.Swept

theorem putSlot (dead : ¬ s.isLive id) (r : Cell) (c : Option Context) :
    Swept id .slot s (s.putSlot r.id c) := by
  intro m
  cases m with
  | slot =>
    have gone : id ∉ (s.putSlot r.id c).thread.slots := by
      rw [← Std.ExtTreeMap.isSome_getElem?_iff_mem, getElem?_slots_putSlot, if_neg dead]
      exact Bool.false_ne_true
    simp [Keeps, gone]
  | stack => simp [Keeps, Site.putSlot]
  | frame => simp [Keeps, Site.putSlot]

theorem changeStack (dead : ¬ s.isLive id) (r : Cell) (f : List Context → List Context) :
    Swept id .stack s (s.changeStack r.id f) := by
  intro m
  cases m with
  | slot => simp [Keeps, Site.changeStack]
  | stack =>
    have gone : id ∉ (s.changeStack r.id f).thread.stackOf := by
      simp only [Site.changeStack]
      rw [← Std.ExtTreeMap.isSome_getElem?_iff_mem, getElem?_sweep, if_neg dead]
      exact Bool.false_ne_true
    simp [Keeps, gone]
  | frame => simp [Keeps, Site.changeStack]

theorem putFrame (other : r.id ≠ id) {frame : Bindings} (hf : s.frame = some frame)
    (c : Option Context) : Swept id .frame s { s with frame := some (put frame r.id c) } := by
  intro m
  cases m with
  | slot => simp [Keeps]
  | stack => simp [Keeps]
  | frame =>
    have kept : id ∈ put frame r.id c ↔ id ∈ frame := by
      rw [← Std.ExtTreeMap.isSome_getElem?_iff_mem, getElem?_put, if_neg other,
        Std.ExtTreeMap.isSome_getElem?_iff_mem]
    simp [Keeps, hf, kept]

theorem keeps_frame {target : Store} (h : Swept id target s t) :
    t.Keeps id .frame ↔ s.Keeps id .frame := by
  simp [h .frame]

end Site.Swept

theorem Deed.ordinary_of_store? {tokens : List (Option (Nat × Token))} {d : Deed} {target : Store}
    (h : d.store? r tokens s = some target) : d.Ordinary := by
  cases d with
  | set c | remove | restore c | attach c | detach j => trivial
  | fork c | retire => cases h

section

variable (live : s.isLive r.id) (dead : ¬ s.isLive id)
include live dead

theorem Cell.swept_restore (c : Option Context) : Site.Swept id (r.store s) s (r.restore c s) := by
  have other : r.id ≠ id := fun same => dead (same ▸ live)
  rw [Cell.restore, Cell.store]
  cases r.strategy with
  | threadLocal => exact .putSlot dead r c
  | taskLocal =>
    cases hf : s.frame with
    | some frame => exact .putFrame other hf c
    | none => exact .changeStack dead r _

theorem Cell.swept_set (c : Context) : Site.Swept id (r.store s) s (r.set c s) := by
  rw [Cell.set]
  split
  next hs hf =>
    rw [Cell.store, hs, hf]
    exact .changeStack dead r _
  next => exact Cell.swept_restore live dead _

theorem Cell.swept_remove : Site.Swept id (r.store s) s (r.remove s) := by
  rw [Cell.remove]
  split
  next hs hf =>
    rw [Cell.store, hs, hf]
    exact .changeStack dead r _
  next => exact Cell.swept_restore live dead _

theorem Cell.swept_detach {k : Token} {target : Store} (h : r.storeOfToken? k s = some target) :
    Site.Swept id target s (r.detach k s) := by
  have restored := Cell.swept_restore live dead k.previous
  rw [Cell.storeOfToken?] at h
  rw [Cell.detach]
  by_cases issued : k.issuer = r.id
  · rw [if_neg (not_not_intro issued)] at h ⊢
    rw [Cell.store] at restored
    cases hs : r.strategy with
    | threadLocal =>
      simp only [hs] at h restored
      cases h
      exact restored
    | taskLocal =>
      cases hk : k.depth with
      | some depth =>
        simp only [hs, hk] at h
        cases h
        exact .changeStack dead r _
      | none =>
        cases hf : s.frame with
        | some frame =>
          simp only [hs, hk, hf] at h restored
          cases h
          exact restored
        | none =>
          simp only [hs, hk, hf] at h
          cases h
  · rw [if_pos issued] at h
    cases h

omit live dead in
theorem Cell.detach_of_ignored {k : Token} (h : r.storeOfToken? k s = none) : r.detach k s = s := by
  rw [Cell.storeOfToken?] at h
  by_cases issued : k.issuer = r.id
  · rw [if_neg (not_not_intro issued)] at h
    split at h
    next => cases h
    next => cases h
    next => cases h
    next hs hk hf =>
      rw [Cell.detach, if_neg (not_not_intro issued)]
      simp only [hs, hk, hf]
  · exact Cell.detach_of_ne issued s

theorem Deed.swept_act {tokens : List (Option (Nat × Token))} {d : Deed} {target : Store}
    (h : d.store? r tokens s = some target) : Site.Swept id target s (d.act r tokens s) := by
  cases d with
  | set c | attach c =>
    cases h
    exact Cell.swept_set live dead c
  | remove =>
    cases h
    exact Cell.swept_remove live dead
  | restore c =>
    cases h
    exact Cell.swept_restore live dead c
  | detach j =>
    rw [Deed.store?] at h
    split at h
    next t hj =>
      rw [Deed.act_detach hj]
      exact Cell.swept_detach live dead h
    next => cases h
  | fork c | retire => cases h

theorem Cell.keeps_frame_detach (k : Token) :
    (r.detach k s).Keeps id .frame ↔ s.Keeps id .frame := by
  cases h : r.storeOfToken? k s with
  | some target => exact (Cell.swept_detach live dead h).keeps_frame
  | none => rw [Cell.detach_of_ignored h]

end

namespace Commons

variable {w : Commons} {i j : Nat} {u : Post}

def Dropped (w : Commons) (j : Nat) (q : Cell) : Prop :=
  w.cells[j]? = some q ∧ ¬ w.registry.live.contains q.id

theorem Dropped.not_isLive (h : w.Dropped j q) (hu : w.site? u = some s) : ¬ s.isLive q.id := by
  rw [Site.isLive, registry_of_site? hu]
  exact h.2

theorem Dropped.step (h : w.Dropped j q) (numbered : w.Numbered) (turn : Turn) :
    (w.step turn).Dropped j q := by
  obtain ⟨hq, dead⟩ := h
  have made : j < w.cells.length := (List.getElem?_eq_some_iff.1 hq).1
  cases turn with
  | make k =>
    refine ⟨(List.getElem?_append_left made).trans hq, ?_⟩
    intro live
    rcases (Cell.isLive_make (s := ⟨w.registry, .fresh, none⟩) (k := k)).1 live with new | old
    · -- The number is given out now, but this cell has had it before.
      have known : w.registry.next = j := (numbered.cell hq) ▸ new
      have next := numbered.next
      omega
    · exact dead old
  | deed i u d =>
    rcases w.step_deed_cases i u d with nothing | ⟨r, s, hr, hu, -, performed⟩
    · rw [nothing]
      exact ⟨hq, dead⟩
    · rw [performed]
      refine ⟨by rw [cells_perform]; exact hq, ?_⟩
      by_cases retired : d = .retire
      · subst retired
        intro live
        have live' : s.isLive q.id := (Cell.isLive_retire.1 live).2
        rw [Site.isLive, registry_of_site? hu] at live'
        exact dead live'
      · rw [registry_perform i r hu retired]
        exact dead

theorem mem_frames_put (hu : w.site? u = some s) (kept : t.Keeps id .frame ↔ s.Keeps id .frame)
    {k : Nat} {frame : Bindings} (hk : w.frames[k]? = some frame) :
    ∃ frame', (w.put u t).frames[k]? = some frame' ∧ (id ∈ frame' ↔ id ∈ frame) := by
  rcases frames_put_cases hu t hk with stays | ⟨hs, framed, moved⟩
  · exact ⟨frame, stays, .rfl⟩
  · obtain ⟨frame', ht⟩ := Option.isSome_iff_exists.1 framed
    refine ⟨frame', moved.trans ht, ?_⟩
    simpa [Site.Keeps, ht, hs] using kept

theorem mem_frames_perform (dropped : w.Dropped j q) (hu : w.site? u = some s)
    (live : s.isLive r.id) (d : Deed) {k : Nat} {frame : Bindings}
    (hk : w.frames[k]? = some frame) :
    ∃ frame', (w.perform i r u s d).frames[k]? = some frame' ∧ (q.id ∈ frame' ↔ q.id ∈ frame) := by
  have dead := dropped.not_isLive hu
  cases d with
  | set c | attach c => exact mem_frames_put hu (Cell.swept_set live dead c).keeps_frame hk
  | remove => exact mem_frames_put hu (Cell.swept_remove live dead).keeps_frame hk
  | restore c => exact mem_frames_put hu (Cell.swept_restore live dead c).keeps_frame hk
  | retire =>
    have kept : (r.retire s).Keeps q.id .frame ↔ s.Keeps q.id .frame := by
      rw [Site.Keeps, Cell.frame_retire, Site.Keeps]
    exact mem_frames_put hu kept hk
  | detach l =>
    rw [perform]
    split
    next => exact ⟨frame, hk, .rfl⟩
    next => exact ⟨frame, hk, .rfl⟩
    next t _ => exact mem_frames_put hu (Cell.keeps_frame_detach live dead t) hk
  | fork c =>
    rw [perform]
    split
    next => exact ⟨frame, hk, .rfl⟩
    next =>
      have started : k < w.frames.length := (List.getElem?_eq_some_iff.1 hk).1
      exact ⟨frame, (List.getElem?_append_left started).trans hk, .rfl⟩

theorem mem_frames_run (numbered : w.Numbered) (dropped : w.Dropped j q) (turns : List Turn)
    {k : Nat} {frame : Bindings} (hk : w.frames[k]? = some frame) :
    ∃ frame', (w.run turns).frames[k]? = some frame' ∧ (q.id ∈ frame' ↔ q.id ∈ frame) := by
  induction turns generalizing w frame with
  | nil => exact ⟨frame, hk, .rfl⟩
  | cons turn turns ih =>
    have first : ∃ frame', (w.step turn).frames[k]? = some frame' ∧
        (q.id ∈ frame' ↔ q.id ∈ frame) := by
      cases turn with
      | make k => exact ⟨frame, hk, .rfl⟩
      | deed i u d =>
        rcases w.step_deed_cases i u d with nothing | ⟨r, s, hr, hu, live, performed⟩
        · rw [nothing]
          exact ⟨frame, hk, .rfl⟩
        · rw [performed]
          exact mem_frames_perform dropped hu live d hk
    obtain ⟨frame', hk', same⟩ := first
    obtain ⟨frame'', hk'', same'⟩ := ih (numbered.step turn) (dropped.step numbered turn) hk'
    exact ⟨frame'', hk'', same'.trans same⟩

/-- After a write with a cell in use, the map that it went to keeps nothing for a cell that is out of
use, unless that map is the frame of a task: there an entry for such a cell stays, as in all maps that
were not written to. Whatever happens next, the frame has the entry as long as it is there. -/
theorem keeps_written_iff {before : List Turn} (holds : (start.run before).Holds i r)
    (hu : (start.run before).site? u = some s) (dropped : (start.run before).Dropped j q) :
    let w := start.run before
    (∀ (d : Deed) (target : Store), d.store? r w.tokens s = some target →
      ∃ t, (w.step (.deed i u d)).site? u = some t ∧
        (t.Keeps q.id target ↔ target = .frame ∧ s.Keeps q.id .frame) ∧
        ∀ m, m ≠ target → (t.Keeps q.id m ↔ s.Keeps q.id m)) ∧
      ∀ (after : List Turn) (k : Nat) (frame : Bindings), w.frames[k]? = some frame →
        ∃ frame', (w.run after).frames[k]? = some frame' ∧ (q.id ∈ frame' ↔ q.id ∈ frame) := by
  intro w
  constructor
  · intro d target writes
    have swept : Site.Swept q.id target s (d.act r w.tokens s) :=
      Deed.swept_act (holds.isLive hu) (dropped.not_isLive hu) writes
    refine ⟨_, site?_deed holds hu (Deed.ordinary_of_store? writes), ?_, ?_⟩
    · rw [swept target, and_comm]
      constructor
      · rintro ⟨stays, kept⟩
        obtain rfl := stays.resolve_left (not_not_intro rfl)
        exact ⟨rfl, kept⟩
      · rintro ⟨rfl, kept⟩
        exact ⟨.inr rfl, kept⟩
    · intro m other
      rw [swept m, and_iff_left (.inl other)]
  · intro after k frame hk
    exact mem_frames_run (Numbered.start.run before) dropped after hk

theorem keeps_written_iff_of_frame :
    let r : Cell := ⟨0, .taskLocal⟩
    let q : Cell := ⟨1, .taskLocal⟩
    let task : Post := ⟨0, some 0⟩
    let thread : Post := ⟨0, none⟩
    let w := start.run [.make .taskLocal, .make .taskLocal, .deed 0 thread (.fork none),
      .deed 1 task (.set ∅), .deed 1 thread (.set ∅), .deed 1 ⟨1, none⟩ .retire]
    w.Holds 0 r ∧ w.Dropped 1 q ∧
      (∃ s t, w.site? task = some s ∧ Deed.store? r w.tokens s (.set ∅) = some .frame ∧
        (w.step (.deed 0 task (.set ∅))).site? task = some t ∧ t.Keeps 1 .frame) ∧
      ∃ s t, w.site? thread = some s ∧ Deed.store? r w.tokens s (.set ∅) = some .stack ∧
        s.Keeps 1 .stack ∧ (w.step (.deed 0 thread (.set ∅))).site? thread = some t ∧
        ¬ t.Keeps 1 .stack := by
  intro r q task thread w
  have holds : w.Holds 0 r := ⟨by cbv, by cbv⟩
  have dead : w.registry.live.contains q.id = false := by cbv
  have dropped : w.Dropped 1 q := ⟨by cbv, by rw [dead]; exact Bool.false_ne_true⟩
  obtain ⟨frame, hk⟩ : ∃ frame, w.frames[0]? = some frame := Option.isSome_iff_exists.1 (by cbv)
  have bound : 1 ∈ frame := by
    have : w.frames[0]?.map (·.contains 1) = some true := by cbv
    simpa [hk] using this
  have stacked : 1 ∈ (w.threads 0).stackOf := by
    have : (w.threads 0).stackOf.contains 1 = true := by cbv
    simpa using this
  have hu : w.site? task = some ⟨w.registry, w.threads 0, some frame⟩ := site?_of_frame hk
  obtain ⟨t, ht, kept, -⟩ := (keeps_written_iff holds hu dropped).1 (.set ∅) .frame rfl
  obtain ⟨t', ht', gone, -⟩ :=
    (keeps_written_iff holds (u := thread) rfl dropped).1 (.set ∅) .stack rfl
  refine ⟨holds, dropped, ⟨_, t, hu, rfl, ht, ?_⟩, _, t', rfl, rfl, stacked, ht', ?_⟩
  · exact kept.2 ⟨rfl, frame, rfl, bound⟩
  · rw [gone]
    rintro ⟨frame, -⟩
    cases frame

end Commons

end Ambient

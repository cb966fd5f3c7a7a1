import MiniRay.Transfer.Source

/-! What the reducers of the outbox do to one obligation, and why they drop it. -/

namespace MiniRay

open Checked

namespace TransferPinOutbox

variable {s s' : TransferPinOutbox} {tid : TransferID} {r : TransferPinObligation}

/-- Obligations are filed under their transfer, and closed once their reader left. -/
structure Inv (s : TransferPinOutbox) : Prop where
  keyed : ∀ tid r, s.pending.get? tid = some r → r.pin.transferId = tid
  left : ∀ tid r, s.pending.get? tid = some r → r.inFlight = true → r.active = false

/-- The same obligation, later: the reader does not return. -/
structure Evolves (death : Option NodeDeathRecord) (r r' : TransferPinObligation) : Prop where
  pin : r'.pin = r.pin
  active : r'.active = true → r.active = true
  left : r'.inFlight = true → r.inFlight = true ∨ r'.active = false
  sourceDeath : r'.sourceDeath = r.sourceDeath ∨
    ∃ d, death = some d ∧ r'.sourceDeath = some d ∧ r.pin.descriptor.nodeId = d.nodeId

/-- An obligation whose reader has just begun. -/
structure Begun (request : Option PinObjectForTransfer) (r : TransferPinObligation) : Prop where
  pin : request = some r.pin
  idle : r.inFlight = false
  unknown : r.sourceDeath = none

structure Moves (request : Option PinObjectForTransfer) (death : Option NodeDeathRecord)
    (dropped : TransferPinObligation → Prop) (s s' : TransferPinOutbox) : Prop where
  kept : ∀ tid r', s'.pending.get? tid = some r' →
    (∃ r, s.pending.get? tid = some r ∧ Evolves death r r') ∨
      (s.pending.get? tid = none ∧ r'.pin.transferId = tid ∧ Begun request r')
  gone : ∀ tid r, s.pending.get? tid = some r → s'.pending.get? tid = none → dropped r

variable {death : Option NodeDeathRecord}

theorem Evolves.rfl : Evolves death r r :=
  ⟨Eq.refl _, id, Or.inl, .inl (Eq.refl _)⟩

variable {request : Option PinObjectForTransfer} {dropped : TransferPinObligation → Prop}

theorem Moves.rfl : Moves request death dropped s s where
  kept _ r h := .inl ⟨r, h, .rfl⟩
  gone _ _ h h' := by simp [h] at h'

theorem Moves.mono {dropped' : TransferPinObligation → Prop} (h : Moves request death dropped s s')
    (himp : ∀ tid r, s.pending.get? tid = some r → dropped r → dropped' r) :
    Moves request death dropped' s s' :=
  ⟨h.kept, fun tid r hr hnone => himp tid r hr (h.gone tid r hr hnone)⟩

theorem Moves.inv (hmoves : Moves request death dropped s s') (h : s.Inv) : s'.Inv where
  keyed tid r' hr' := by
    rcases hmoves.kept tid r' hr' with ⟨r, hr, hevolves⟩ | ⟨_, hkey, _⟩
    · rw [hevolves.pin]
      exact h.keyed tid r hr
    · exact hkey
  left tid r' hr' hflight := by
    rcases hmoves.kept tid r' hr' with ⟨r, hr, hevolves⟩ | ⟨_, _, hbegun⟩
    · rcases hevolves.left hflight with hold | hinactive
      · have hinactive := h.left tid r hr hold
        by_contra hactive
        rw [Bool.not_eq_false] at hactive
        rw [hevolves.active hactive] at hinactive
        cases hinactive
      · exact hinactive
    · rw [hbegun.idle] at hflight
      cases hflight

theorem moves_set {r' : TransferPinObligation} (hr : s.pending.get? tid = some r)
    (hevolves : Evolves death r r') (hnext : s'.pending = s.pending.set tid r') :
    Moves request death dropped s s' where
  kept x r₁ hr₁ := by
    rw [hnext] at hr₁
    rcases Dict.of_get?_set hr₁ with ⟨heq, rfl⟩ | hr₁
    · exact .inl ⟨r, heq ▸ hr, hevolves⟩
    · exact .inl ⟨r₁, hr₁, .rfl⟩
  gone x r₁ hr₁ hnone := by
    rw [hnext, Dict.get?_set] at hnone
    split at hnone
    · cases hnone
    · rw [hr₁] at hnone
      cases hnone

theorem moves_erase (hr : s.pending.get? tid = some r) (hdropped : dropped r)
    (hnext : s'.pending = s.pending.erase tid) : Moves request death dropped s s' where
  kept x r₁ hr₁ := by
    rw [hnext] at hr₁
    exact .inl ⟨r₁, (Dict.of_get?_erase hr₁).2, .rfl⟩
  gone x r₁ hr₁ hnone := by
    by_cases heq : tid = x
    · subst heq
      rw [hr, Option.some.injEq] at hr₁
      exact hr₁ ▸ hdropped
    · rw [hnext, Dict.get?_erase_of_ne _ heq, hr₁] at hnone
      cases hnone

/-! ## The reducers -/

theorem begin_moves {sourceAddress : Address} {request : PinObjectForTransfer}
    (h : s.begin_ sourceAddress request = .ok (r, s')) :
    Moves (some request) none dropped s s' := by
  unfold begin_ at h
  cases hprevious : s.pending.get? request.transferId with
  | some previous =>
    simp only [hprevious] at h
    split at h
    · cases h
    · cases h
      exact .rfl
  | none =>
    simp only [hprevious, Except.ok.injEq, Prod.mk.injEq] at h
    obtain ⟨_, rfl⟩ := h
    refine ⟨fun x r' hr' => ?_, fun x r' hr' hnone => ?_⟩
    · rw [setObligation] at hr'
      rcases Dict.of_get?_set hr' with ⟨heq, rfl⟩ | hr'
      · exact .inr ⟨heq ▸ hprevious, heq, rfl, rfl, rfl⟩
      · exact .inl ⟨r', hr', .rfl⟩
    · rw [setObligation, Dict.get?_set] at hnone
      split at hnone
      · cases hnone
      · rw [hr'] at hnone
        cases hnone

theorem acquire_moves (h : s.Inv) (now : ℚ) (transferId : Option TransferID) (force : Bool) :
    Moves none none dropped s (s.acquire now transferId force).2 := by
  unfold acquire
  cases hfound : (s.candidates transferId).find? fun r => r.Acquirable now force with
  | none => exact .rfl
  | some r =>
    have hacquirable := List.find?_some hfound
    have hmem := List.mem_of_find?_eq_some hfound
    have hcurrent : ∃ tid, s.pending.get? tid = some r := by
      unfold candidates at hmem
      cases transferId with
      | none => exact Dict.mem_values_iff.mp hmem
      | some tid => exact ⟨tid, by simpa using hmem⟩
    obtain ⟨tid, hr⟩ := hcurrent
    have hkey := h.keyed tid r hr
    simp only [decide_eq_true_eq] at hacquirable
    subst hkey
    have hevolves : Evolves none r { r with inFlight := true } :=
      ⟨rfl, id, fun _ => .inr hacquirable.1, .inl rfl⟩
    exact moves_set hr hevolves rfl

theorem closeAndAcquire_moves (h : s.Inv) {now : ℚ} {found : Option TransferPinObligation}
    (hcall : s.closeAndAcquire tid now = .ok (found, s')) : Moves none none dropped s s' := by
  simp only [closeAndAcquire, close, bind_eq_ok, pure_eq_ok] at hcall
  obtain ⟨closed, hclosed, hacquired⟩ := hcall
  cases hr : s.pending.get? tid with
  | none => simp [hr] at hclosed
  | some r =>
    simp only [hr, Except.ok.injEq] at hclosed
    have hkey := h.keyed tid r hr
    have hleave : closed.pending.get? tid = some r.leave := by
      rw [← hclosed]
      exact Dict.get?_set_self _ _ _
    unfold acquire candidates at hacquired
    simp only [hleave, Option.toList_some] at hacquired
    by_cases hacquirable : r.leave.Acquirable now true
    · rw [List.find?_cons_of_pos (by simpa using hacquirable)] at hacquired
      obtain ⟨_, rfl⟩ := Prod.mk.injEq _ _ _ _ |>.mp hacquired
      have hevolves : Evolves none r { r.leave with inFlight := true } :=
        ⟨rfl, (fun hactive => by cases hactive), fun _ => .inr rfl, .inl rfl⟩
      refine moves_set hr hevolves ?_
      rw [← hclosed, ← hkey]
      exact Dict.set_set _ _ _ _
    · rw [List.find?_cons_of_neg (by simpa using hacquirable), List.find?_nil] at hacquired
      obtain ⟨_, rfl⟩ := Prod.mk.injEq _ _ _ _ |>.mp hacquired
      have hevolves : Evolves none r r.leave :=
        ⟨rfl, (fun hactive => by cases hactive), fun _ => .inr rfl, .inl rfl⟩
      exact moves_set hr hevolves (by rw [← hclosed])

theorem settle_moves {ticket : Nat} {acknowledged settled : Bool} {now : ℚ}
    (hcall : s.settle tid ticket acknowledged now = .ok (settled, s')) :
    ∃ r, s.pending.get? tid = some r ∧ r.inFlight = true ∧
      Moves none none (fun x => x = r ∧ (acknowledged = true ∨ r.sourceDeath ≠ none)) s s' := by
  simp only [settle, bind_eq_ok] at hcall
  obtain ⟨r, howned, hcall⟩ := hcall
  unfold owned at howned
  cases hr : s.pending.get? tid with
  | none => simp [hr] at howned
  | some current =>
    simp only [hr] at howned
    split at howned
    · cases howned
    · next hticket =>
      cases howned
      rw [not_or, Bool.not_eq_false] at hticket
      refine ⟨r, rfl, hticket.2, ?_⟩
      split at hcall
      · next hdone =>
        cases pure_eq_ok.mp hcall
        exact moves_erase hr ⟨rfl, hdone⟩ rfl
      · cases pure_eq_ok.mp hcall
        have hevolves : Evolves none r (r.retryLater now) :=
          ⟨rfl, id, (fun hflight => by cases hflight), .inl rfl⟩
        exact moves_set hr hevolves rfl

/-! ## The death of a source -/

theorem markOne_moves {death : NodeDeathRecord} (h : s.Inv) (hr : s.pending.get? tid = some r)
    (hcall : s.markOne death r = .ok s') :
    Moves none (some death) (fun x => x = r ∧ r.pin.descriptor.nodeId = death.nodeId) s s' ∧
      ∀ x, x ≠ tid → s'.pending.get? x = s.pending.get? x := by
  have hkey := h.keyed tid r hr
  unfold markOne at hcall
  split at hcall
  · cases hcall
    exact ⟨.rfl, fun _ _ => rfl⟩
  · next hnode =>
    have hnode := not_not.mp hnode
    split at hcall
    · cases hcall
    · split at hcall
      · cases hcall
        rw [hkey]
        exact ⟨moves_erase hr ⟨rfl, hnode⟩ rfl, fun x hne => Dict.get?_erase_of_ne _ (Ne.symm hne)⟩
      · cases hcall
        have hevolves : Evolves (some death) r { r with sourceDeath := some death } :=
          ⟨rfl, id, Or.inl, .inr ⟨death, rfl, rfl, hnode⟩⟩
        subst hkey
        exact ⟨moves_set hr hevolves rfl, fun x hne => Dict.get?_set_of_ne _ _ (Ne.symm hne)⟩

/-- The loop visits every record once, so each one moves at most once. -/
theorem markAll_moves {death : NodeDeathRecord} (h : s.Inv) {records : List TransferPinObligation}
    (hnodup : (records.map fun r => r.pin.transferId).Nodup)
    (hcurrent : ∀ r ∈ records, s.pending.get? r.pin.transferId = some r) :
    Moves none (some death) (fun x => x.pin.descriptor.nodeId = death.nodeId) s
      (markAll death records s) ∧
      ∀ x, x ∉ records.map (fun r => r.pin.transferId) →
        (markAll death records s).pending.get? x = s.pending.get? x := by
  induction records generalizing s with
  | nil => exact ⟨.rfl, fun _ _ => rfl⟩
  | cons r records ih =>
    rw [List.map_cons, List.nodup_cons] at hnodup
    unfold markAll
    have hr := hcurrent r List.mem_cons_self
    cases hcall : s.markOne death r with
    | error e => exact ⟨.rfl, fun _ _ => rfl⟩
    | ok s₁ =>
      obtain ⟨hfirst, hothers⟩ := markOne_moves h hr hcall
      have hrest : ∀ r' ∈ records, s₁.pending.get? r'.pin.transferId = some r' := by
        intro r' hr'
        rw [hothers]
        · exact hcurrent r' (List.mem_cons_of_mem _ hr')
        · rintro heq
          exact hnodup.1 (heq ▸ List.mem_map_of_mem hr')
      obtain ⟨hlater, hkept⟩ := ih (hfirst.inv h) hnodup.2 hrest
      refine ⟨⟨fun x r' hr' => ?_, fun x r' hr' hnone => ?_⟩, fun x hx => ?_⟩
      · by_cases hx : x = r.pin.transferId
        · subst hx
          rw [hkept _ hnodup.1] at hr'
          exact hfirst.kept _ r' hr'
        · rcases hlater.kept x r' hr' with ⟨old, hold, hevolves⟩ | ⟨hnone, hbegun⟩
          · exact .inl ⟨old, hothers x hx ▸ hold, hevolves⟩
          · exact .inr ⟨hothers x hx ▸ hnone, hbegun⟩
      · by_cases hx : x = r.pin.transferId
        · subst hx
          rw [hkept _ hnodup.1] at hnone
          obtain ⟨heq, hnode⟩ := hfirst.gone _ r' hr' hnone
          exact heq ▸ hnode
        · exact hlater.gone x r' ((hothers x hx).trans hr') hnone
      · rw [List.map_cons, List.mem_cons, not_or] at hx
        rw [hkept x hx.2, hothers x hx.1]

theorem markSourceDead_moves (h : s.Inv) (death : NodeDeathRecord) :
    Moves none (some death) (fun x => x.pin.descriptor.nodeId = death.nodeId) s
      (s.markSourceDead death) := by
  have hcurrent : ∀ r ∈ s.pending.values, s.pending.get? r.pin.transferId = some r := by
    intro r hr
    obtain ⟨tid, htid⟩ := Dict.mem_values_iff.mp hr
    rw [h.keyed tid r htid]
    exact htid
  have hkeys : s.pending.values.map (fun r => r.pin.transferId) = s.pending.keys := by
    unfold Dict.values Dict.keys
    rw [List.map_map]
    apply List.map_congr_left
    intro item hitem
    exact h.keyed item.1 item.2 (Dict.get?_eq_some_iff.mpr hitem)
  exact (markAll_moves h (hkeys ▸ s.pending.nodup) hcurrent).1

end TransferPinOutbox

end MiniRay

import Greybus.Core.Steps
import Greybus.Reasoning.Counter

/-!
# The ids of pending requests

The ids come from one 32-bit counter, cut to 16 bits with zero left out, so that they repeat every
65535 requests.
-/

namespace Greybus

open Operations Reasoning.Transition Reasoning.Counter

/-! ## The counter -/

/-- The id that is assigned after `n` others. -/
def nthId (n : Nat) : UInt16 := UInt16.ofNat (n % 65535 + 1)

/-- The low 16 bits of `request_id` when `n` ids have been assigned. -/
def counterAt (n : Nat) : Nat := if n % 65535 = 0 then 0 else n % 65535 + 1

theorem toNat_nthId (n : Nat) : (nthId n).toNat = n % 65535 + 1 := by
  rw [nthId, UInt16.toNat_ofNat']
  omega

theorem nthId_ne_zero (n : Nat) : nthId n ≠ 0 := by
  intro h
  have hnat := congrArg UInt16.toNat h
  rw [toNat_nthId] at hnat
  simp at hnat

theorem nthId_ne {m n : Nat} (hlt : m < n) (hperiod : n < m + 65535) : nthId m ≠ nthId n := by
  intro h
  have hnat := congrArg UInt16.toNat h
  rw [toNat_nthId, toNat_nthId] at hnat
  omega

theorem takeRequestId_spec {requestId : UInt32} {n : Nat}
    (h : requestId.toNat % 2 ^ 16 = counterAt n) :
    (takeRequestId requestId).1 = nthId n ∧
      (takeRequestId requestId).2.toNat % 2 ^ 16 = counterAt (n + 1) := by
  have hzero : requestId.toUInt16 = 0 ↔ requestId.toNat % 2 ^ 16 = 0 := by
    rw [← UInt16.toNat_inj, UInt32.toNat_toUInt16]
    rfl
  rw [← UInt16.toNat_inj, toNat_nthId]
  simp only [counterAt] at h ⊢
  by_cases hn : n % 65535 = 0
  · rw [if_pos hn] at h
    have htake : takeRequestId requestId = ((requestId + 1).toUInt16, requestId + 2) :=
      if_pos (hzero.mpr h)
    rw [htake, UInt32.toNat_toUInt16, UInt32.toNat_add, UInt32.toNat_add, if_neg (by omega)]
    simp only [UInt32.reduceToNat]
    omega
  · rw [if_neg hn] at h
    have htake : takeRequestId requestId = (requestId.toUInt16, requestId + 1) :=
      if_neg fun hskip => by rw [hzero.mp hskip] at h; omega
    rw [htake, UInt32.toNat_toUInt16, UInt32.toNat_add]
    simp only [UInt32.reduceToNat]
    split <;> omega

/-! ## The ids of pending requests -/

/-- A call that sends a request asks for a response. -/
def Call.needsResponse : Call → Bool
  | .send _ _ needResponse _ _ => needResponse
  | _ => true

theorem Operations.Keeps.idOf {s s' : Operations} (h : s.Keeps s') (x : OpRef) :
    s'.idOf x = none ∨ s'.idOf x = s.idOf x := by
  cases hx : s'.heap x with
  | none => exact .inl (by simp [Operations.idOf, hx])
  | some op' =>
    obtain ⟨op, hop, hsame⟩ := h x op' hx
    exact .inr (by simp [Operations.idOf, hx, hop, hsame.requestBuffer])

theorem Operations.idOf_queueRequest_of_ne (s : Operations) {q x : OpRef} (hx : x ≠ q)
    (op : Operation) (callback : Option Callback) (now : Timespec) :
    (s.queueRequest q op callback now).idOf x = s.idOf x := by
  rw [Operations.idOf, s.queueRequest_heap_of_ne hx, Operations.idOf]

-- A pending request keeps its id.
theorem Change.idOf {s s' : Operations} {outer : OpRef → Nat} (hs : s.Sound outer) {a : Call}
    (ha : a.needsResponse = true) (h : Change s a s') {c : Nat} {x : OpRef}
    (hx : x ∈ s.txFifo c) : s'.idOf x = none ∨ s'.idOf x = s.idOf x := by
  have hne : ∀ {q}, s.isPending q = false → x ≠ q := by
    rintro _ hpending rfl
    rw [hs.isPending_iff.mpr ⟨c, hx⟩] at hpending
    cases hpending
  cases h with
  | quiet hquiet =>
    cases hx' : s'.heap x with
    | none => exact .inl (by simp [Operations.idOf, hx'])
    | some op' =>
      rcases hquiet.heap x op' hx' with ⟨op, hop, hsame⟩ | ⟨hnone, -⟩
      · exact .inr (by simp [Operations.idOf, hx', hop, hsame.requestBuffer])
      · obtain ⟨op, hop, -⟩ := hs.fifo c x hx
        rw [hnone] at hop
        cases hop
  | unanswered => cases ha
  | accepted _ _ hpending => exact .inr (s.idOf_queueRequest_of_ne (hne hpending) _ _ _)
  | @refused _ q op op₁ callback now _ _ _ hpending _ hdropped =>
    have hqueued := s.idOf_queueRequest_of_ne (hne hpending) op₁ callback now
    exact (hdropped.keeps.idOf x).imp_right fun hsame => hsame.trans hqueued
  | @answered r q rop op _ hr _ hq _ _ hanswered =>
    by_cases hxq : x = q
    · subst hxq
      obtain ⟨op', hop', -, -, hbuffer, -⟩ := hanswered.attached
      exact .inr (by simp [Operations.idOf, hop', hq, hbuffer])
    · by_cases hxr : x = r
      · subst hxr
        exact .inr (by simp [Operations.idOf, hanswered.response hxq, hr])
      · exact .inr (by rw [Operations.idOf, hanswered.others x hxq hxr, Operations.idOf])
  | expired _ hq _ hcalled => exact (hcalled.keeps hq).idOf x
  | flushed hdropped => exact hdropped.keeps.idOf x

namespace World

/-- The ids have been given in turn, and a pending request has the latest one that it was given. -/
structure Ids (w : World) : Prop where
  counter : w.requestId.toNat % 2 ^ 16 = counterAt w.assigned.length
  numbered : Numbered nthId w.assigned
  latest : ∀ c, ∀ q ∈ w.txFifo c, ∃ id, w.idOf q = some id ∧ Latest w.assigned q id

theorem initial_ids (cportCount : Nat) : (World.initial cportCount).Ids where
  counter := rfl
  numbered := trivial
  latest c q hq := by simp [World.initial, Operations.gbInit] at hq

theorem step_ids {w w' : World} {a : Call} (hw : w.Inv) (hi : w.Ids) (h : step w a = some w')
    (ha : a.needsResponse = true) : w'.Ids := by
  have hstep := step_spec hw h
  obtain ⟨hnth, hcounter⟩ := takeRequestId_spec hi.counter
  constructor
  case counter =>
    rcases hstep.change.assigned with ⟨hid, hassigned⟩ | ⟨q, -, -, hid, hassigned⟩
    · rw [hid, hassigned]
      exact hi.counter
    · rw [hid, hassigned]
      exact hcounter
  case numbered =>
    rcases hstep.change.assigned with ⟨-, hassigned⟩ | ⟨q, -, -, -, hassigned⟩ <;> rw [hassigned]
    · exact hi.numbered
    · exact ⟨hnth, hi.numbered⟩
  case latest =>
    intro c q hq
    rcases hstep.change.fifo hq with hold | ⟨-, hassigned, hid⟩
    · obtain ⟨id, hid, hlatest⟩ := hi.latest c q hold
      obtain ⟨op, hop, -⟩ := hstep.inv.fifo c q hq
      have hsame : w'.idOf q = w.idOf q :=
        (hstep.change.idOf hw ha hold).resolve_left (by simp [Operations.idOf, hop])
      refine ⟨id, hsame.trans hid, ?_⟩
      rcases hstep.change.assigned with ⟨-, hassigned⟩ | ⟨p, -, hpending, -, hassigned⟩ <;>
        rw [hassigned]
      · exact hlatest
      · -- a pending request is not given another id
        refine hlatest.cons_of_ne ?_ _
        rintro rfl
        rw [hw.isPending_iff.mpr ⟨c, hold⟩] at hpending
        cases hpending
    · exact ⟨_, hid, hassigned ▸ latest_cons_self q _⟩

theorem run_ids {cportCount : Nat} {w : World} {as : List Call}
    (hneeds : ∀ a ∈ as, a.needsResponse = true)
    (hrun : run step (.initial cportCount) as = some w) : w.Inv ∧ w.Ids :=
  run_induct_of_eachStep (P := fun w => w.Inv ∧ w.Ids)
    (fun _ _ _ hw h ha => ⟨(step_spec hw.1 h).inv, step_ids hw.1 hw.2 h ha⟩)
    ⟨initial_inv cportCount, initial_ids cportCount⟩
    (eachStep_of_forall (fun a ha _ _ => hneeds a ha) _) hrun

/-! ## Matching responses -/

/-- Fewer than 65535 ids have been assigned while the requests of the cport are pending. -/
def Recent (w : World) (cport : Nat) : Prop :=
  ∀ q ∈ w.txFifo cport, since w.assigned q < 65535

theorem idOf_nodup {w : World} (hw : w.Inv) (hi : w.Ids) {c : Nat} (hrecent : w.Recent c) :
    ((w.txFifo c).map w.idOf).Nodup := by
  refine (hw.nodup c).map_on fun p hp q hq heq => ?_
  obtain ⟨id, hid, hlatest⟩ := hi.latest c p hp
  obtain ⟨id', hid', hlatest'⟩ := hi.latest c q hq
  by_contra hne
  refine hi.numbered.latest_ne (fun _ _ => nthId_ne) hlatest hlatest' hne (hrecent p hp)
    (hrecent q hq) ?_
  rwa [hid, hid', Option.some.injEq] at heq

/-- How the ids pair responses with requests. -/
structure PairsResponses (w : World) : Prop where
  nonzero : ∀ q id, (q, id) ∈ w.assigned → id ≠ 0
  distinct : ∀ c, w.Recent c → ((w.txFifo c).map w.idOf).Nodup
  -- A response answers the pending request with its cport and id.
  answers : ∀ r rop w', step w (.process r) = some w' → w.heap r = some rop →
    rop.requestBuffer.hdr.type &&& responseFlag ≠ 0 →
    ∀ p ∈ w.txFifo rop.cport, w.idOf p = some rop.requestBuffer.hdr.id →
    ∃ q op, q ∈ w.txFifo rop.cport ∧ w.heap q = some op ∧ op.cport = rop.cport ∧
      op.requestBuffer.hdr.id = rop.requestBuffer.hdr.id ∧ w.Answered r q op w'.toOperations ∧
      (w.Recent rop.cport → q = p)
  -- A response that finds no request changes nothing.
  ignores : ∀ r rop w', step w (.process r) = some w' → w.heap r = some rop →
    rop.requestBuffer.hdr.type &&& responseFlag ≠ 0 →
    (∀ q ∈ w.txFifo rop.cport, w.idOf q ≠ some rop.requestBuffer.hdr.id) →
    w'.toOperations = w.toOperations

theorem step_response {w w' : World} {r : OpRef} {rop : Operation}
    (h : step w (.process r) = some w') (hr : w.heap r = some rop)
    (hflag : rop.requestBuffer.hdr.type &&& responseFlag ≠ 0) :
    ∃ res, w.gbProcessResponse r = some res ∧ w'.toOperations = res.2 := by
  obtain ⟨-, -, res, hrun, hops⟩ := step_process h
  exact ⟨res, by simpa [processMessage, hr, hflag] using hrun, hops⟩

theorem pairsResponses {w : World} (hw : w.Inv) (hi : w.Ids) : w.PairsResponses where
  nonzero q id hid := by
    obtain ⟨n, hn⟩ := hi.numbered.eq_of_mem hid
    exact ne_of_eq_of_ne hn (nthId_ne_zero n)
  distinct c hrecent := idOf_nodup hw hi hrecent
  answers r rop w' h hr hflag p hp hid := by
    obtain ⟨res, hrun, hops⟩ := step_response h hr hflag
    rcases gbProcessResponse_sound hw hr with ⟨-, hnone⟩ | ⟨q, op, s', hrun', hin, hq, hcport, hid',
      -, hanswered⟩
    · obtain ⟨op, hop, -⟩ := hw.fifo _ p hp
      simp only [Operations.idOf, hop, Option.map_some, Option.some.injEq] at hid
      exact absurd hid (hnone p hp op hop)
    · rw [hrun', Option.some.injEq] at hrun
      rw [hops, ← hrun]
      refine ⟨q, op, hin, hq, hcport, hid', hanswered, fun hrecent => ?_⟩
      apply List.inj_on_of_nodup_map (idOf_nodup hw hi hrecent) hin hp
      rw [hid, Operations.idOf, hq, Option.map_some, hid']
  ignores r rop w' h hr hflag hnone := by
    obtain ⟨res, hrun, hops⟩ := step_response h hr hflag
    rcases gbProcessResponse_sound hw hr with ⟨hrun', -⟩ | ⟨p, op', s', -, hin', hp, -, hid', -⟩
    · rw [hrun', Option.some.injEq] at hrun
      rw [hops, ← hrun]
    · exact absurd (by simp [Operations.idOf, hp, hid']) (hnone p hin')

/-- In every state of a run whose requests all ask for a response, the ids pair the responses with
the pending requests. -/
theorem run_pairsResponses {cportCount : Nat} {w : World} {as : List Call}
    (hrun : run step (.initial cportCount) as = some w)
    (hneeds : ∀ a ∈ as, a.needsResponse = true) : w.PairsResponses :=
  have hw := run_ids hneeds hrun
  pairsResponses hw.1 hw.2

/-- Two requests, of which the later one is answered first; a duplicate of that response comes
last. -/
def outOfOrder : List Call :=
  [.create true true 0 2 1, .create true true 0 2 1, .send 0 none true ⟨0, 0⟩ 0,
   .sendSync 1 ⟨0, 0⟩ 0, .receive true true 0 { hdr := ⟨8, 2, 0x82, 0, 0⟩, payload := [] },
   .process 2, .receive true true 0 { hdr := ⟨8, 2, 0x82, 0, 0⟩, payload := [] }]

theorem run_pairsResponses_outOfOrder :
    ∃ w, run step (.initial 1) outOfOrder = some w ∧ w.PairsResponses := by
  have hsome : (run step (.initial 1) outOfOrder).isSome := by decide
  obtain ⟨w, hrun⟩ := Option.isSome_iff_exists.mp hsome
  exact ⟨w, hrun, run_pairsResponses hrun (by decide)⟩

end World

end Greybus

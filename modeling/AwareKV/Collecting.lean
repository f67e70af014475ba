import AwareKV.Cleanup
import AwareKV.PagedKv
import AwareKV.Provenance

/-!
# AwareKV.Collecting — what a connector's save sessions collect

The only sessions there are, `save_kv_layer` creates, for no tokens and no blocks.

* `extract_no_tokens`: from any layer, with any slots, such a session takes a tensor without rows.
* `session_step`: a call moves a request's session as its own name and shape say.
* `sessions_collect_nothing`: the sessions after every run, and that there is no element in them.
-/

namespace AwareKV

variable {α : Type}

/-! ## Layers without rows -/

namespace Tensor

theorem rowless_sized (t : Tensor α) : ([] : List α).length = (0 :: t.shape.tail).prod := by
  rw [List.prod_cons, Nat.zero_mul, List.length_nil]

/-- A tensor without its rows. -/
def rowless (t : Tensor α) : Tensor α := ⟨0 :: t.shape.tail, [], rowless_sized t⟩

theorem gather?_nil {t : Tensor α} (h : t.shape ≠ []) : t.gather? [] = some t.rowless := by
  have hnone : ∀ i ∈ ([] : List ℕ), i < t.rowCount := fun i hi => absurd hi List.not_mem_nil
  obtain ⟨u, hu⟩ := gather?_of_lt h hnone
  rw [hu]
  unfold gather? at hu
  split at hu
  · cases hu
  · next n dims hs =>
    split_ifs at hu
    cases hu
    have htail : dims = t.shape.tail := by rw [hs, List.tail_cons]
    exact congrArg some (Tensor.ext (congrArg (List.cons 0) htail) rfl)

end Tensor

/-- **No tokens and no blocks**: whatever the slots are, no row of the layer is taken. -/
theorem extract_no_tokens (kvLayer : Tensor α) (slotMapping : Option (List ℤ)) :
    extractPrefixKvFromLayer kvLayer slotMapping [] 0 =
      if kvLayer.shape = [] then .error ⟨.indexError, "tuple index out of range"⟩
      else .ok kvLayer.rowless := by
  by_cases hdim : kvLayer.shape = []
  · have hnone : extractAttempt kvLayer slotMapping [] 0 = none := by
      unfold extractAttempt
      simp only [Tensor.gather?_scalar hdim, Tensor.takeRows, ite_self]
    rw [if_pos hdim, extractPrefixKvFromLayer, hnone, hdim]
  · rw [if_neg hdim]
    refine extract_of_attempt _ _ _ ?_
    have hslots : slice (validSlots (slotMapping.getD [])) 0 0 = [] := by
      rw [← Int.ofNat_zero, slice_nat]
      rfl
    have hfirst : kvLayer.takeRows 0 = some kvLayer.rowless := by
      have hbound : sliceBound (kvLayer.shape.headD 0) 0 = 0 := Nat.zero_min (kvLayer.shape.headD 0)
      rw [Tensor.takeRows, hbound]
      exact Tensor.gather?_nil hdim
    rw [extractAttempt_eq, hslots]
    split_ifs with hvalid hblocks hin
    · exact Tensor.gather?_nil hdim
    · exact absurd rfl hblocks.1
    · exact absurd rfl hin
    · exact hfirst

/-! ## One session -/

namespace SaveSession

/-- A session like those of `save_kv_layer`: nothing of a request is in it. -/
structure Placeholder (cfg : DeadlineKVConfig) (s : SaveSession α) : Prop where
  prefixKey : s.prefixKey = "temp_key"
  matchedTokens : s.matchedTokens = 0
  matchedBlocks : s.matchedBlocks = []
  numLayers : s.numLayers = cfg.numLayers
  empty : ∀ i d, s.layerData.get? i = some d → d.kvTensor.data = []

/-- What such a session makes of a layer. -/
def collect (s : SaveSession α) (layerName : String) (kvLayer : Tensor α) : SaveSession α :=
  if kvLayer.shape = [] then s.abort "tuple index out of range"
  else (s.addLayer layerName kvLayer.rowless).1

/-- A layer after a call was there before, or it is that of the call. -/
theorem get?_addLayer_cases {s : SaveSession α} {layerName : String} {t : Tensor α} {i : ℤ}
    {d : LayerKVData α} (h : (s.addLayer layerName t).1.layerData.get? i = some d) :
    s.layerData.get? i = some d ∨ d.kvTensor = t := by
  simp only [addLayer] at h
  split_ifs at h
  · exact Or.inl h
  · exact Or.inl h
  · exact Or.inl h
  · rw [Dict.get?_insert] at h
    split_ifs at h with hi
    · cases h
      exact Or.inr rfl
    · exact Or.inl h

theorem Placeholder.collect {cfg : DeadlineKVConfig} {s : SaveSession α} (h : Placeholder cfg s)
    (layerName : String) (kvLayer : Tensor α) : Placeholder cfg (s.collect layerName kvLayer) := by
  unfold SaveSession.collect
  split_ifs with hdim
  · exact ⟨h.prefixKey, h.matchedTokens, h.matchedBlocks, h.numLayers, h.empty⟩
  · have hsame : (s.addLayer layerName kvLayer.rowless).1.prefixKey = s.prefixKey ∧
        (s.addLayer layerName kvLayer.rowless).1.matchedTokens = s.matchedTokens ∧
        (s.addLayer layerName kvLayer.rowless).1.matchedBlocks = s.matchedBlocks := by
      simp only [addLayer]
      split_ifs <;> exact ⟨rfl, rfl, rfl⟩
    refine ⟨hsame.1.trans h.prefixKey, hsame.2.1.trans h.matchedTokens, hsame.2.2.trans h.matchedBlocks,
      (s.addLayer_numLayers layerName _).trans h.numLayers, fun i d hd => ?_⟩
    rcases get?_addLayer_cases hd with hold | hnew
    · exact h.empty i d hold
    · rw [hnew]
      rfl

end SaveSession

theorem placeholder_default (cfg : DeadlineKVConfig) (rid : ReqId) :
    (WorkerSide.defaultSession cfg rid : SaveSession α).Placeholder cfg := by
  refine ⟨rfl, rfl, rfl, rfl, fun i d hd => ?_⟩
  cases hd

/-! ## All sessions of a worker side -/

/-- How a call moves the session of `rid`: a layer is collected, and the end of the request removes the
session if it was aborted. -/
def sessionNext (cfg : DeadlineKVConfig) (rid : ReqId) (s : Option (SaveSession α)) :
    WorkerOp α → Option (SaveSession α)
  | .saveKvLayer layerName kvLayer _ q =>
    if q = rid then some ((s.getD (WorkerSide.defaultSession cfg rid)).collect layerName kvLayer) else s
  | .requestFinished q => if q = rid then s.filter (fun s => !s.aborted) else s
  | _ => s

section Worker

variable {cfg : DeadlineKVConfig} (fo : FloatOps) {w : WorkerSide α} {rid : ReqId}

/-- All sessions are placeholders. -/
def Placeholders (cfg : DeadlineKVConfig) (w : WorkerSide α) : Prop :=
  ∀ rid s, w.saveSessions.get? rid = some s → s.Placeholder cfg

theorem Placeholders.getD (h : Placeholders cfg w) (rid : ReqId) :
    ((w.saveSessions.get? rid).getD (WorkerSide.defaultSession cfg rid)).Placeholder cfg := by
  cases hs : w.saveSessions.get? rid with
  | none => exact placeholder_default cfg rid
  | some s => exact h rid s hs

/-- Saving a layer of any content under any slots. -/
theorem get?_saveKvLayer (h : Placeholders cfg w) (layerName : String) (kvLayer : Tensor α)
    (attn : Option AttnMetadata) (q rid : ReqId) :
    (w.saveKvLayer cfg layerName kvLayer attn q).saveSessions.get? rid =
      sessionNext cfg rid (w.saveSessions.get? rid) (.saveKvLayer layerName kvLayer attn q) := by
  have hsession := h.getD q
  simp only [WorkerSide.saveKvLayer, sessionNext]
  rw [Dict.get?_insert, hsession.matchedBlocks, hsession.matchedTokens, extract_no_tokens]
  by_cases hq : q = rid
  · subst hq
    rw [if_pos rfl, if_pos rfl, SaveSession.collect]
    by_cases hdim : kvLayer.shape = []
    · rw [if_pos hdim, if_pos hdim]
    · rw [if_neg hdim, if_neg hdim]
  · rw [if_neg (Ne.symm hq), if_neg hq]

/-- The end of a request. -/
theorem get?_requestFinished (w : WorkerSide α) (q rid : ReqId) :
    (w.requestFinished q).1.saveSessions.get? rid =
      sessionNext cfg rid (w.saveSessions.get? rid) (.requestFinished q : WorkerOp α) := by
  rw [WorkerSide.requestFinished_saveSessions, sessionNext]
  by_cases hq : q = rid
  · subst hq
    rw [if_pos rfl]
    by_cases ha : w.phase q = .aborted
    · obtain ⟨s, hs, hab⟩ := WorkerSide.phase_eq_aborted.mp ha
      rw [if_pos ha, Dict.get?_erase, if_pos rfl, hs, Option.filter_some, hab]
      rfl
    · rw [if_neg ha]
      cases hs : w.saveSessions.get? q with
      | none => rfl
      | some s =>
        have hopen : s.aborted = false := by
          by_contra hab
          exact ha (WorkerSide.phase_eq_aborted.mpr ⟨s, hs, by simpa using hab⟩)
        rw [Option.filter_some, hopen]
        rfl
  · rw [if_neg hq]
    split_ifs with ha
    · rw [Dict.get?_erase, if_neg (Ne.symm hq)]
    · rfl

/-- **A step**: every session moves by the call alone. -/
theorem session_step (h : Placeholders cfg w) (wop : WorkerOp α) (rid : ReqId) :
    ((workerMachine α cfg fo).step w wop).1.saveSessions.get? rid =
      sessionNext cfg rid (w.saveSessions.get? rid) wop := by
  cases wop with
  | startLoadKv md env =>
    show (w.startLoadKv cfg fo md env).1.saveSessions.get? rid = w.saveSessions.get? rid
    rw [WorkerSide.startLoadKv_saveSessions]
  | waitForLayerLoad layerName => rfl
  | saveKvLayer layerName kvLayer attn q => exact get?_saveKvLayer h layerName kvLayer attn q rid
  | requestFinished q => exact get?_requestFinished w q rid
  | refinementStarts q k => rfl
  | refinementEnds q k => rfl

theorem sessionNext_placeholder {s s' : Option (SaveSession α)} (h : ∀ t, s = some t → t.Placeholder cfg)
    {wop : WorkerOp α} (hs' : sessionNext cfg rid s wop = s') : ∀ t, s' = some t → t.Placeholder cfg := by
  subst hs'
  intro t ht
  cases wop with
  | saveKvLayer layerName kvLayer attn q =>
    simp only [sessionNext] at ht
    split_ifs at ht with hq
    · cases ht
      refine SaveSession.Placeholder.collect ?_ layerName kvLayer
      cases s with
      | none => exact placeholder_default cfg rid
      | some u => exact h u rfl
    · exact h t ht
  | requestFinished q =>
    simp only [sessionNext] at ht
    split_ifs at ht with hq
    · exact h t (Option.filter_eq_some_iff.mp ht).1
    · exact h t ht
  | startLoadKv md env => exact h t ht
  | waitForLayerLoad layerName => exact h t ht
  | refinementStarts q k => exact h t ht
  | refinementEnds q k => exact h t ht

theorem Placeholders.step (h : Placeholders cfg w) (wop : WorkerOp α) :
    Placeholders cfg ((workerMachine α cfg fo).step w wop).1 :=
  fun rid s hs => sessionNext_placeholder (h rid) (session_step fo h wop rid).symm s hs

/-- **A run** of a worker side. -/
theorem session_execFrom (h : Placeholders cfg w) (wops : List (WorkerOp α)) :
    Placeholders cfg ((workerMachine α cfg fo).execFrom w wops) ∧
      ∀ rid, ((workerMachine α cfg fo).execFrom w wops).saveSessions.get? rid =
        wops.foldl (sessionNext cfg rid) (w.saveSessions.get? rid) := by
  induction wops generalizing w with
  | nil => exact ⟨h, fun rid => rfl⟩
  | cons wop wops ih =>
    obtain ⟨hall, hget⟩ := ih (h.step fo wop)
    refine ⟨hall, fun rid => ?_⟩
    rw [List.foldl_cons, ← session_step fo h wop rid]
    exact hget rid

end Worker

/-! ## The connector -/

/-- The session of `rid`. -/
def Connector.session (c : Connector α) (rid : ReqId) : Option (SaveSession α) :=
  c.workerSide.bind (fun w => w.saveSessions.get? rid)

/-- The calls that a worker side's sessions see: saves for a request, and ends of requests. -/
def ConnectorOp.sessionOps : ConnectorOp α → List (WorkerOp α)
  | .saveKvLayer layerName kvLayer attn requestId =>
    if requestId.getD "" = "" then [] else [.saveKvLayer layerName kvLayer attn (requestId.getD "")]
  | .requestFinished rid => [.requestFinished rid]
  | _ => []

/-- What a session makes of a call does not depend on the connector. -/
theorem foldl_workerOps (cfg : DeadlineKVConfig) (rid : ReqId) (c : Connector α) (op : ConnectorOp α)
    (s : Option (SaveSession α)) :
    (c.workerOps op).foldl (sessionNext cfg rid) s = op.sessionOps.foldl (sessionNext cfg rid) s := by
  cases op with
  | startLoadKv requestId env =>
    show ((c.loading requestId).toList.map _).foldl _ _ = s
    cases c.loading requestId <;> rfl
  | saveKvLayer layerName kvLayer attn requestId => rfl
  | requestFinished q => rfl
  | _ => rfl

/-- **Saving collects nothing**: after every run of a connector, the save session of a request is what the
names and dimensions of the layers saved for it, and its ends, make of none, whatever the layers' elements
and slots are and whatever else happens; and no session has an element of any layer, a token, a block or a
prefix key. -/
theorem sessions_collect_nothing (sha256Hex : String → String) (fo : FloatOps) (cfg : DeadlineKVConfig)
    {role : String} (hrole : role = "kv_both" ∨ role = "kv_consumer") (ops : List (ConnectorOp α))
    (rid : ReqId) :
    ((connectorMachine α sha256Hex fo cfg role).exec ops).session rid =
        (ops.flatMap ConnectorOp.sessionOps).foldl (sessionNext cfg rid) none ∧
      ∀ s, ((connectorMachine α sha256Hex fo cfg role).exec ops).session rid = some s →
        s.Placeholder cfg := by
  obtain ⟨w, hw, hall, hget⟩ : ∃ w,
      ((connectorMachine α sha256Hex fo cfg role).exec ops).workerSide = some w ∧ Placeholders cfg w ∧
        ∀ rid, w.saveSessions.get? rid =
          (ops.flatMap ConnectorOp.sessionOps).foldl (sessionNext cfg rid) none := by
    induction ops using List.reverseRecOn with
    | nil =>
      refine ⟨{}, ?_, ?_, fun rid => rfl⟩
      case refine_2 =>
        intro rid s hs
        cases hs
      show (Connector.start α fo cfg role).workerSide = some {}
      rw [Connector.start, if_pos hrole]
    | append_singleton ops op ih =>
      obtain ⟨w, hw, hall, hget⟩ := ih
      have hconfig : ((connectorMachine α sha256Hex fo cfg role).exec ops).config = cfg := (sides_run ops).1
      obtain ⟨hall', hget'⟩ := session_execFrom fo hall
        (((connectorMachine α sha256Hex fo cfg role).exec ops).workerOps op)
      refine ⟨_, ?_, hall', fun rid => ?_⟩
      · rw [Machine.exec_snoc, workerSide_step, hw, hconfig]
        rfl
      · rw [hget', foldl_workerOps, hget, List.flatMap_append, List.foldl_append, List.flatMap_singleton]
  have hsession : ((connectorMachine α sha256Hex fo cfg role).exec ops).session rid =
      w.saveSessions.get? rid := by
    rw [Connector.session, hw]
    rfl
  rw [hsession]
  exact ⟨hget rid, hall rid⟩

/-- Two layers of one element are saved, one of them for slot 0, and the request ends. -/
def rowlessSaves : List (ConnectorOp ℕ) :=
  [.saveKvLayer "layer_0" ⟨[1, 1], [7], rfl⟩ (some ⟨some (some [0]), none⟩) (some "a"),
    .saveKvLayer "layer_1" ⟨[1, 1], [8], rfl⟩ none (some "a"), .requestFinished "a"]

theorem sessions_collect_nothing_saved :
    ((connectorMachine ℕ (fun text => text) default {} "kv_both").exec rowlessSaves).session "a" =
        (rowlessSaves.flatMap ConnectorOp.sessionOps).foldl (sessionNext {} "a") none ∧
      ∀ s, ((connectorMachine ℕ (fun text => text) default {} "kv_both").exec rowlessSaves).session "a" =
        some s → s.Placeholder {} :=
  sessions_collect_nothing (fun text => text) default {} (Or.inl rfl) rowlessSaves "a"

end AwareKV

import AwareKV.KeyText
import AwareKV.LoadGate
import AwareKV.ManifestService

/-!
# AwareKV.PrefixReuse — what a longer prompt finds of a stored prefix

`compute_prefix_key` takes the length of the prefix to hash, and `prepare_request_state` always gives it
the length of the whole prompt: one query, for one key.

* `filed_exec`: every manifest of the service lies under its own key.
* `prefix_reuse_iff`: a request whose prompt starts with the tokens of a stored manifest finds that
  manifest exactly when its prompt has no further tokens, cached states apart.
-/

namespace AwareKV

/-! ## The manifests of the service -/

/-- Every manifest lies under its own key and has the default format version. -/
def Filed (ix : MemoryIndex) : Prop :=
  ∀ k m, ix.index.get? k = some m → m.prefixKey = k ∧ m.objectFormatVersion = "v1"

theorem Filed.erase {ix : MemoryIndex} (h : Filed ix) (prefixKey : String) :
    Filed ⟨ix.index.erase prefixKey⟩ := by
  intro k m hm
  exact h k m (Dict.get?_erase_eq_some.mp hm).2

theorem Filed.get {ix : MemoryIndex} (h : Filed ix) (prefixKey : String) (now : ℤ) :
    Filed (ix.get prefixKey now).1 := by
  unfold MemoryIndex.get
  cases ix.index.get? prefixKey with
  | none => exact h
  | some m =>
    dsimp only
    split_ifs
    · exact h.erase prefixKey
    · exact h

theorem Filed.touch {ix : MemoryIndex} (h : Filed ix) (prefixKey : String) (now : ℤ) :
    Filed (ix.touch prefixKey now) := by
  intro k m hm
  rw [MemoryIndex.touch, Dict.get?_modify] at hm
  split_ifs at hm with hk
  · obtain ⟨m₀, hm₀, rfl⟩ := Option.map_eq_some_iff.mp hm
    rw [hk]
    exact h prefixKey m₀ hm₀
  · exact h k m hm

theorem Filed.put {ix : MemoryIndex} (h : Filed ix) (req : ManifestPutRequest) (now : ℤ) :
    Filed (ix.put (manifestOfPut req now)) := by
  intro k m hm
  rw [MemoryIndex.put, Dict.get?_insert] at hm
  split_ifs at hm with hk
  · cases hm
    exact ⟨hk.symm, rfl⟩
  · exact h k m hm

/-- **Step lemma.** -/
theorem filed_step {ix : MemoryIndex} (h : Filed ix) (op : ServiceOp) :
    Filed (manifestService.step ix op).1 := by
  cases op with
  | query prefixKey now =>
    rw [service_step]
    exact (h.get prefixKey now).touch prefixKey now
  | put body now =>
    show Filed (manifestPut ix body now).1
    unfold manifestPut
    cases parseManifestPut body with
    | none => exact h
    | some req => exact h.put req now
  | touch prefixKey now => exact h.touch prefixKey now
  | delete prefixKey now =>
    show Filed (ix.delete prefixKey).1
    unfold MemoryIndex.delete
    split_ifs
    · exact h.erase prefixKey
    · exact h
  | stats now => exact h

/-- **Run lemma.** -/
theorem filed_exec (ops : List ServiceOp) : Filed (manifestService.exec ops) :=
  manifestService.invariant (I := Filed) (fun k m hm => by simp [manifestService] at hm)
    (fun _ op h => filed_step h op) ops

/-- A query finds the manifest that lies under its key while it lives. -/
theorem manifestQuery_stored {ix : MemoryIndex} (hfiled : Filed ix) {k : String} {m : PrefixManifest}
    (hm : ix.index.get? k = some m) (now : ℤ) :
    (manifestQuery ix k now).2 = if Alive m now then some { m with lastAccessMs := now } else none := by
  rw [manifestQuery_snd, get_eq_filter, hm, Option.filter_some]
  split_ifs
  · rw [Option.map_some, ← (hfiled k m hm).2]
  · rfl

/-- What a query finds has the key that was asked for. -/
theorem prefixKey_of_query {ix : MemoryIndex} (hfiled : Filed ix) {k : String} {now : ℤ}
    {found : PrefixManifest} (h : (manifestQuery ix k now).2 = some found) : found.prefixKey = k := by
  rw [manifestQuery_snd, get_eq_filter] at h
  obtain ⟨m, hm, rfl⟩ := Option.map_eq_some_iff.mp h
  exact (hfiled k m (Option.filter_eq_some_iff.mp hm).1).1

namespace SchedulerSide

/-! ## Queries -/

variable (sha256Hex : String → String) (side : SchedulerSide)

/-- `compute_prefix_key` of all of `tokens`, with the connector's configuration. -/
def keyOfTokens (tokens : List ℤ) : String :=
  computePrefixKey sha256Hex side.config.modelId side.config.tokenizerId side.config.kvLayoutVersion
    side.config.cacheDtype side.config.blockSize tokens tokens.length

theorem keyOfTokens_append_ne (hsha : sha256Hex.Injective) (tokens : List ℤ) {more : List ℤ}
    (hmore : more ≠ []) :
    side.keyOfTokens sha256Hex tokens ≠ side.keyOfTokens sha256Hex (tokens ++ more) :=
  computePrefixKey_append_ne hsha _ _ _ _ _ tokens hmore

/-- The environment in which the manifest service, with the index `ix`, answers the query of the
request at time `now`. -/
def served (ix : MemoryIndex) (request : Request) (now : ℤ) (env : QueryEnv) : QueryEnv :=
  { env with answer := routeAnswer (queryRoute ix (side.prefixKeyOf sha256Hex request) now).2 }

theorem queryManifest_served (ix : MemoryIndex) (request : Request) (now : ℤ) (env : QueryEnv) :
    queryManifest (side.served sha256Hex ix request now env).answer =
      (manifestQuery ix (side.keyOfTokens sha256Hex (extractPromptTokens request)) now).2 :=
  (queryRoute_eq ix _ now).2

/-- **The manifest of a token list does not answer the query for a longer one.** -/
theorem more_eq_nil_of_found (hsha : sha256Hex.Injective) {ix : MemoryIndex} (hfiled : Filed ix)
    {tokens more : List ℤ} {m : PrefixManifest} {now : ℤ}
    (hstored : ix.index.get? (side.keyOfTokens sha256Hex tokens) = some m)
    (hfound : (manifestQuery ix (side.keyOfTokens sha256Hex (tokens ++ more)) now).2.map
      PrefixManifest.untouched = some m.untouched) : more = [] := by
  obtain ⟨found, hq, hsame⟩ := Option.map_eq_some_iff.mp hfound
  have hsamekey : m.untouched.prefixKey = found.untouched.prefixKey := by rw [hsame]
  have hkey : side.keyOfTokens sha256Hex tokens = side.keyOfTokens sha256Hex (tokens ++ more) :=
    calc side.keyOfTokens sha256Hex tokens = m.prefixKey := (hfiled _ m hstored).1.symm
      _ = found.prefixKey := hsamekey
      _ = side.keyOfTokens sha256Hex (tokens ++ more) := prefixKey_of_query hfiled hq
  by_contra hmore
  exact side.keyOfTokens_append_ne sha256Hex hsha tokens hmore hkey

/-- The manifest that `prepare_request_state` finds: that of the cached state, or the one that the
manifest service answers with. -/
def foundManifest (sm : StateManager) (request : Request) (env : QueryEnv) : Option PrefixManifest :=
  if side.Rejects request then none
  else match cachedState sm (extractRequestId request) with
    | some st => st.manifest
    | none => queryManifest env.answer

/-- The answer to a fresh query whose manifest is accepted. -/
theorem answer_of_accepted {sm : StateManager} {request : Request} {env : QueryEnv} {m : PrefixManifest}
    (hr : ¬ side.Rejects request) (hc : cachedState sm (extractRequestId request) = none)
    (hq : queryManifest env.answer = some m) (ha : side.PlannerAccepts env m) (computed : ℤ) :
    (side.prepareRequestState sha256Hex sm request computed env).2 =
      .ok (max 0 (m.matchedTokens - computed), false) := by
  have hout := side.prepared sha256Hex sm request computed env
  generalize side.prepareRequestState sha256Hex sm request computed env = out at hout
  cases hout with
  | rejected hr' => exact absurd hr' hr
  | cached st _ hc' =>
    rw [hc] at hc'
    cases hc'
  | missed _ _ hq' =>
    rw [hq] at hq'
    cases hq'
  | raised m' e _ _ hq' hp =>
    rw [hq] at hq'
    cases hq'
    exact absurd ha (not_accepts_of_raises hp)
  | recomputed m' plan _ _ hq' hp ha' =>
    rw [hq] at hq'
    cases hq'
    exact absurd ha ha'
  | accepted m' plan _ _ hq' hp ha' hcall hmode htok hblk =>
    rw [hq] at hq'
    cases hq'
    rfl

/-! ## Reuse -/

/-- The preparation finds the manifest `m`, up to its last access, and if the planner accepts it the
answer promises `n` tokens at least. -/
def Reuses (sm : StateManager) (request : Request) (env : QueryEnv) (m : PrefixManifest) (n : ℕ) : Prop :=
  (side.foundManifest sm request env).map PrefixManifest.untouched = some m.untouched ∧
    (side.PlannerAccepts env m → ∃ promised async,
      (side.prepareRequestState sha256Hex sm request 0 env).2 = .ok (promised, async) ∧ n ≤ promised)

/-- **When a stored manifest is reused**: the prompt is not empty, and either the request has a cached
state that holds the manifest, with enough tokens if the planner accepts it, or the prompt has no
tokens after those of the manifest, which still lives. -/
def ReuseOk (sm : StateManager) (request : Request) (env : QueryEnv) (m : PrefixManifest)
    (tokens more : List ℤ) (now : ℤ) : Prop :=
  tokens ++ more ≠ [] ∧
    match cachedState sm (extractRequestId request) with
    | some st => st.manifest.map PrefixManifest.untouched = some m.untouched ∧
        (side.PlannerAccepts env m → tokens.length ≤ st.matchedTokens)
    | none => more = [] ∧ Alive m now = true

variable {side}

/-- A prompt that starts with tokens enough is rejected only if it is empty. -/
theorem rejects_append_iff {request : Request} {tokens more : List ℤ}
    (hprompt : extractPromptTokens request = tokens ++ more)
    (hmin : side.config.planner.minPrefixTokens ≤ tokens.length) :
    side.Rejects request ↔ tokens ++ more = [] := by
  unfold Rejects
  rw [hprompt]
  refine ⟨fun h => h.resolve_right ?_, Or.inl⟩
  rw [List.length_append]
  push_cast
  omega

/-- With a cached state the answer is that state's. -/
theorem reuses_cached_iff {sm : StateManager} {request : Request} {st : RequestTransferState}
    (hr : ¬ side.Rejects request) (hc : cachedState sm (extractRequestId request) = some st)
    (env : QueryEnv) (m : PrefixManifest) (n : ℕ) :
    side.Reuses sha256Hex sm request env m n ↔
      st.manifest.map PrefixManifest.untouched = some m.untouched ∧
        (side.PlannerAccepts env m → n ≤ st.matchedTokens) := by
  have hanswer : (side.prepareRequestState sha256Hex sm request 0 env).2 = .ok (st.matchedTokens, false) := by
    rw [prepareRequestState, if_neg hr, hc]
  unfold Reuses foundManifest
  rw [hanswer, if_neg hr, hc]
  refine and_congr_right fun _ => forall_congr' fun _ => ⟨?_, fun h => ⟨_, false, rfl, h⟩⟩
  rintro ⟨promised, async, hok, hle⟩
  cases hok
  exact hle

/-- Without one the manifest is found if the prompt has no more tokens than it and it lives. -/
theorem reuses_uncached_iff (hsha : sha256Hex.Injective) {sm : StateManager} {request : Request}
    (hr : ¬ side.Rejects request) (hc : cachedState sm (extractRequestId request) = none)
    {ix : MemoryIndex} (hfiled : Filed ix) {tokens more : List ℤ}
    (hprompt : extractPromptTokens request = tokens ++ more) {m : PrefixManifest}
    (hstored : ix.index.get? (side.keyOfTokens sha256Hex tokens) = some m)
    (hlen : m.matchedTokens = tokens.length) (now : ℤ) (env : QueryEnv) :
    side.Reuses sha256Hex sm request (side.served sha256Hex ix request now env) m tokens.length ↔
      more = [] ∧ Alive m now = true := by
  unfold Reuses foundManifest
  rw [if_neg hr, hc]
  dsimp only
  rw [queryManifest_served, hprompt]
  constructor
  · rintro ⟨hfound, -⟩
    have hmore := side.more_eq_nil_of_found sha256Hex hsha hfiled hstored hfound
    obtain ⟨found, hq, -⟩ := Option.map_eq_some_iff.mp hfound
    refine ⟨hmore, ?_⟩
    by_contra hdead
    rw [hmore, List.append_nil, manifestQuery_stored hfiled hstored, if_neg hdead] at hq
    cases hq
  · rintro ⟨rfl, halive⟩
    rw [List.append_nil] at hprompt ⊢
    have hq : (manifestQuery ix (side.keyOfTokens sha256Hex tokens) now).2 =
        some { m with lastAccessMs := now } := by
      rw [manifestQuery_stored hfiled hstored, if_pos halive]
    refine ⟨by rw [hq]; rfl, fun ha => ⟨_, false, side.answer_of_accepted sha256Hex hr hc
      (m := { m with lastAccessMs := now }) ?_ ha 0, ?_⟩⟩
    · rw [queryManifest_served, hprompt, hq]
    · show (tokens.length : ℤ) ≤ max 0 (m.matchedTokens - 0)
      omega

variable (side)

/-- **A request whose prompt starts with the tokens of a stored manifest reuses it exactly when there
are no further tokens**, cached states, empty prompts and expired manifests apart. -/
theorem prefix_reuse_iff (hsha : sha256Hex.Injective) (sm : StateManager) (ops : List ServiceOp)
    (request : Request) (env : QueryEnv) (now : ℤ) (tokens more : List ℤ)
    (hprompt : extractPromptTokens request = tokens ++ more)
    (hmin : side.config.planner.minPrefixTokens ≤ tokens.length) (m : PrefixManifest)
    (hstored : (manifestService.exec ops).index.get? (side.keyOfTokens sha256Hex tokens) = some m)
    (hlen : m.matchedTokens = tokens.length) :
    side.Reuses sha256Hex sm request
        (side.served sha256Hex (manifestService.exec ops) request now env) m tokens.length ↔
      side.ReuseOk sm request env m tokens more now := by
  have hfiled := filed_exec ops
  generalize manifestService.exec ops = ix at hstored hfiled
  have hreject := rejects_append_iff hprompt hmin
  unfold ReuseOk
  by_cases hr : side.Rejects request
  · refine iff_of_false (fun h => ?_) (fun h => absurd (hreject.mp hr) h.1)
    obtain ⟨hfound, -⟩ := h
    rw [foundManifest, if_pos hr] at hfound
    cases hfound
  · rw [and_iff_right (mt hreject.mpr hr)]
    cases hc : cachedState sm (extractRequestId request) with
    | some st => exact reuses_cached_iff sha256Hex hr hc _ m tokens.length
    | none => exact reuses_uncached_iff sha256Hex hsha hr hc hfiled hprompt hstored hlen now env

/-! ## A shared prefix -/

/-- A scheduler side of the default configuration. -/
def defaultSide : SchedulerSide := sideOf default {}

/-- A manifest of 128 tokens, as it is posted. -/
def sharedRequest : ManifestPutRequest :=
  { savedRequest with prefixKey := defaultSide.keyOfTokens id (List.replicate 128 0) }

/-- The service after the manifest was posted. -/
def sharedOps : List ServiceOp := [.put (saverBody sharedRequest (.str "v1") "r") 0]

theorem sharedOps_stored :
    (manifestService.exec sharedOps).index.get? (defaultSide.keyOfTokens id (List.replicate 128 0)) =
      some (manifestOfPut sharedRequest 0) := by
  have hput : manifestService.exec sharedOps = MemoryIndex.put ⟨.empty⟩ (manifestOfPut sharedRequest 0) := by
    show (manifestPut _ (saverBody sharedRequest (.str "v1") "r") 0).1 = _
    rw [manifestPut, parseManifestPut_saverBody]
    rfl
  rw [hput, MemoryIndex.put, Dict.get?_insert]
  exact if_pos rfl

/-- A prompt of these tokens and `more`. -/
def sharedPrompt (more : List ℤ) : Request :=
  { requestId := some "r", promptTokenIds := some (List.replicate 128 0 ++ more) }

/-- The network is as the estimator starts out. -/
def startEnv : QueryEnv := { answer := .timeout, net := { bandwidthBps := 1000000000, rttMs := 10 } }

/-- The same prompt again, a second later. -/
theorem prefix_reuse_same :
    defaultSide.Reuses id StateManager.new (sharedPrompt [])
      (defaultSide.served id (manifestService.exec sharedOps) (sharedPrompt []) 1000 startEnv)
      (manifestOfPut sharedRequest 0) (List.replicate 128 (0 : ℤ)).length :=
  (defaultSide.prefix_reuse_iff id Function.injective_id StateManager.new sharedOps (sharedPrompt [])
    startEnv 1000 (List.replicate 128 0) [] rfl (by decide +kernel) (manifestOfPut sharedRequest 0)
    sharedOps_stored rfl).mpr ⟨by simp, rfl, by decide⟩

/-- A prompt with one token more does not find the manifest of the prefix. -/
theorem prefix_reuse_longer :
    extractPromptTokens (sharedPrompt [1]) = List.replicate 128 0 ++ [1] ∧
      defaultSide.config.planner.minPrefixTokens ≤ 128 ∧
      (manifestOfPut sharedRequest 0).matchedTokens = 128 ∧
      (manifestService.exec sharedOps).index.get? (defaultSide.keyOfTokens id (List.replicate 128 0)) =
        some (manifestOfPut sharedRequest 0) ∧
      ¬ defaultSide.Reuses id StateManager.new (sharedPrompt [1])
        (defaultSide.served id (manifestService.exec sharedOps) (sharedPrompt [1]) 1000 startEnv)
        (manifestOfPut sharedRequest 0) 128 := by
  refine ⟨rfl, by decide, rfl, sharedOps_stored, fun ⟨hfound, _⟩ => ?_⟩
  have haccepted : ¬ defaultSide.Rejects (sharedPrompt [1]) := by decide +kernel
  have hfresh : cachedState StateManager.new (extractRequestId (sharedPrompt [1])) = none := rfl
  rw [foundManifest, if_neg haccepted, hfresh] at hfound
  dsimp only at hfound
  rw [queryManifest_served] at hfound
  have hmore : [(1 : ℤ)] = [] := defaultSide.more_eq_nil_of_found id Function.injective_id
    (filed_exec sharedOps) sharedOps_stored hfound
  cases hmore

end SchedulerSide

end AwareKV

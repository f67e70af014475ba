import AwareKV.Deployment

/-!
# AwareKV.Sharing — connectors that share the services

What a connector is answered does not depend on the other connectors of a deployment, although their queries
touch and expire the manifests of the index that they share.

* `connectors_isolated`: a run, and the same run without the calls of the other connectors.
-/

namespace AwareKV

/-- The answer that reaches the connector says what the query finds. -/
theorem routeAnswer_query (ix : MemoryIndex) (k : String) (now : ℤ) :
    routeAnswer (queryRoute ix k now).2 =
      .response { hit := (manifestQuery ix k now).2.isSome, manifest := (manifestQuery ix k now).2 } := by
  have hmanifest := (queryRoute_eq ix k now).2
  rw [queryManifest_routeAnswer] at hmanifest
  have hhit : (queryRoute ix k now).2.isSome = (manifestQuery ix k now).2.isSome := by
    unfold queryRoute manifestQuery
    rcases ix.get k now with ⟨ix', _ | m⟩
    · rfl
    · rfl
  rw [routeAnswer, hmanifest, hhit]

section Sharing

variable {α κ : Type} [DecidableEq κ] {setup : Setup κ}

/-- The step is no call of another connector than `i`. -/
def DeploymentOp.keeps (i : κ) : DeploymentOp α κ → Bool
  | .call j _ _ => j = i
  | _ => true

/-- The step is a call of connector `i` or an exchange with the data server. -/
def DeploymentOp.seen (i : κ) : DeploymentOp α κ → Bool
  | .call j _ _ => j = i
  | .data _ => true
  | .manifest _ => false

/-- The clock of the manifest service does not go back. -/
def Clocked (ops : List (DeploymentOp α κ)) : Prop :=
  ops.Pairwise fun op op' => ∀ s ∈ op.now, ∀ t ∈ op'.now, s ≤ t

/-- What the clients of the services do is kept. -/
theorem filterMap_keeps {β : Type} {f : DeploymentOp α κ → Option β} (hcall : ∀ j link cop, f (.call j link cop) = none)
    (i : κ) (ops : List (DeploymentOp α κ)) : (ops.filter (DeploymentOp.keeps i)).filterMap f = ops.filterMap f := by
  rw [List.filterMap_filter]
  refine List.filterMap_congr fun op _ => ?_
  cases op with
  | call j link cop => rw [hcall, ite_self]
  | _ => rfl

/-- Both runs have the same files. -/
theorem files_kept (i : κ) (ops : List (DeploymentOp α κ)) :
    ((deploymentMachine α setup).exec (ops.filter (DeploymentOp.keeps i))).files =
      ((deploymentMachine α setup).exec ops).files := by
  rw [clients_files, clients_files, filterMap_keeps (fun _ _ _ => rfl)]

/-- From the end of the runs on, queries find the same manifests. -/
theorem query_kept (i : κ) {ops : List (DeploymentOp α κ)} {t : ℤ} (hclock : ∀ op ∈ ops, ∀ s ∈ op.now, s ≤ t)
    (k : String) :
    (manifestQuery ((deploymentMachine α setup).exec (ops.filter (DeploymentOp.keeps i))).index k t).2 =
      (manifestQuery ((deploymentMachine α setup).exec ops).index k t).2 := by
  have hkept : ∀ op ∈ ops.filter (DeploymentOp.keeps i), ∀ s ∈ op.now, s ≤ t :=
    fun op hop => hclock op (List.mem_filter.mp hop).1
  rw [clients_query hclock, clients_query hkept, filterMap_keeps (fun _ _ _ => rfl)]

omit [DecidableEq κ] in
/-- A call of a connector is the same where the connector, the files and what its query finds are. -/
theorem resolve_congr {d d' : Deployment α setup} {i : κ} {link : Link} (hconnector : d'.connectors i = d.connectors i)
    (hfiles : d'.files = d.files)
    (hquery : ∀ k, (manifestQuery d'.index k link.now).2 = (manifestQuery d.index k link.now).2)
    (cop : ConnectorOp α) : d'.resolve i link cop = d.resolve i link cop := by
  cases cop with
  | getNumNewMatchedTokens request n env =>
    have hanswer : ∀ side, d'.manifestAnswer side request link = d.manifestAnswer side request link := by
      intro side
      unfold Deployment.manifestAnswer
      rw [routeAnswer_query, routeAnswer_query, hquery]
    simp only [Deployment.resolve, hconnector, hanswer]
  | startLoadKv requestId env =>
    have hreply : ∀ md, d'.criticalReply md link = d.criticalReply md link := by
      intro md
      unfold Deployment.criticalReply Deployment.reply
      rw [hfiles]
    simp only [Deployment.resolve, hconnector, hreply]
  | refinementEnds rid k reply =>
    have hreply : ∀ md, d'.refinementReply rid md link = d.refinementReply rid md link := by
      intro md
      unfold Deployment.refinementReply Deployment.reply
      rw [hfiles]
    simp only [Deployment.resolve, hconnector, hreply]
  | _ => rfl

/-- The services answer a connector's own call the same. -/
theorem resolve_kept {i : κ} {ops : List (DeploymentOp α κ)} {link : Link} {cop : ConnectorOp α}
    (hclock : Clocked (ops ++ [.call i link cop]))
    (hstate : ((deploymentMachine α setup).exec (ops.filter (DeploymentOp.keeps i))).connectors i =
      ((deploymentMachine α setup).exec ops).connectors i) :
    ((deploymentMachine α setup).exec (ops.filter (DeploymentOp.keeps i))).resolve i link cop =
      ((deploymentMachine α setup).exec ops).resolve i link cop := by
  have hlast := (List.pairwise_append.mp hclock).2.2
  refine resolve_congr hstate (files_kept i ops) (query_kept i fun op hop s hs => ?_) cop
  exact hlast op hop _ (List.mem_singleton.mpr rfl) s hs link.now rfl

/-- **Connectors do not disturb each other**: if the manifest service's clock does not go back, connector `i` has the
same state after the run, the services answered its queries, loads and refinement threads the same, and it and the
data server's clients were given the same answers, as in the run without the calls of the other connectors. -/
theorem connectors_isolated (i : κ) (ops : List (DeploymentOp α κ)) (hclock : Clocked ops) :
    ((deploymentMachine α setup).exec (ops.filter (DeploymentOp.keeps i))).connectors i =
        ((deploymentMachine α setup).exec ops).connectors i ∧
      (deploymentMachine α setup).notes (Deployment.callsOf i) (ops.filter (DeploymentOp.keeps i)) =
        (deploymentMachine α setup).notes (Deployment.callsOf i) ops ∧
      ((deploymentMachine α setup).trace (ops.filter (DeploymentOp.keeps i))).filter (fun x => x.1.seen i) =
        ((deploymentMachine α setup).trace ops).filter (fun x => x.1.seen i) := by
  induction ops using List.reverseRecOn with
  | nil => exact ⟨rfl, rfl, rfl⟩
  | append_singleton ops op ih =>
    obtain ⟨hstate, hcalls, htrace⟩ := ih (List.pairwise_append.mp hclock).1
    rw [List.filter_append, Machine.trace_snoc, Machine.notes_snoc, List.filter_append, ← htrace, ← hcalls]
    cases op with
    | manifest sop =>
      have hkept : [DeploymentOp.manifest sop].filter (DeploymentOp.keeps (α := α) i) = [.manifest sop] := rfl
      rw [hkept, Machine.exec_snoc, Machine.exec_snoc, Machine.trace_snoc, Machine.notes_snoc, List.filter_append]
      exact ⟨hstate, rfl, rfl⟩
    | data x =>
      have hkept : [DeploymentOp.data x].filter (DeploymentOp.keeps (α := α) i) = [.data x] := rfl
      have hanswer : (deploymentMachine α setup).answer (ops.filter (DeploymentOp.keeps i)) (.data x) =
          (deploymentMachine α setup).answer ops (.data x) := by
        show DeploymentAnswer.data (setup.dataServer.step _ x).2 = .data (setup.dataServer.step _ x).2
        rw [files_kept i ops]
      rw [hkept, Machine.exec_snoc, Machine.exec_snoc, Machine.trace_snoc, Machine.notes_snoc, List.filter_append,
        hanswer]
      exact ⟨hstate, rfl, rfl⟩
    | call j link cop =>
      by_cases hj : j = i
      · subst hj
        have hkept : [DeploymentOp.call j link cop].filter (DeploymentOp.keeps j) = [.call j link cop] := by
          simp [DeploymentOp.keeps]
        have hcall := resolve_kept hclock hstate
        have hanswer : (deploymentMachine α setup).answer (ops.filter (DeploymentOp.keeps j)) (.call j link cop) =
            (deploymentMachine α setup).answer ops (.call j link cop) := by
          show DeploymentAnswer.call ((setup.connector α j).step _ _).2 = .call ((setup.connector α j).step _ _).2
          rw [hstate, hcall]
        have hown : ((deploymentMachine α setup).exec (ops.filter (DeploymentOp.keeps j))).callsOf j
            (.call j link cop) = ((deploymentMachine α setup).exec ops).callsOf j (.call j link cop) := by
          show (if j = j then [_] else []) = if j = j then [_] else []
          rw [hcall]
        rw [hkept, Machine.exec_snoc, Machine.exec_snoc, Machine.trace_snoc, Machine.notes_snoc, List.filter_append,
          hanswer, hown]
        refine ⟨?_, rfl, rfl⟩
        show Function.update _ j _ j = Function.update _ j _ j
        rw [Function.update_self, Function.update_self, hstate, hcall]
      · have hkept : [DeploymentOp.call j link cop].filter (DeploymentOp.keeps i) = [] := by
          simp [DeploymentOp.keeps, hj]
        have hunseen : [(DeploymentOp.call j link cop,
            (deploymentMachine α setup).answer ops (.call j link cop))].filter (fun x => x.1.seen i) = [] := by
          simp [DeploymentOp.seen, hj]
        have hnone : ((deploymentMachine α setup).exec ops).callsOf i (.call j link cop) = [] := if_neg hj
        rw [hkept, hunseen, hnone, List.append_nil, List.append_nil, List.append_nil, Machine.exec_snoc]
        refine ⟨hstate.trans ?_, rfl, rfl⟩
        exact (Function.update_of_ne (Ne.symm hj) _ _).symm

end Sharing

/-! ## Two connectors -/

/-- Two connectors with the small configuration. -/
def duoSetup : Setup Bool where
  sha256Hex := soloSetup.sha256Hex
  floats := soloSetup.floats
  runtime := soloSetup.runtime
  config _ := soloSetup.config ()
  role _ := "kv_both"
  backend := exampleBackend
  files := .empty

/-- The second connector asks, loads and refines between the calls of the first one, and asks again when the
manifest has expired. -/
def duoRun : List (DeploymentOp Half Bool) :=
  [.data ⟨.put (pyStr "o") [1, 0] .critical (pyStr "fp16_raw") [], {}, .none⟩,
    .data ⟨.put (pyStr "f") [2, 0] .refinement (pyStr "fp16_raw") [], {}, .none⟩,
    .manifest (.put (saverBody refinedManifest (.str "v1") "r") 0),
    .call true {} (.getNumNewMatchedTokens soloPrompt 0 SchedulerSide.startEnv),
    .call false {} (.getNumNewMatchedTokens soloPrompt 0 SchedulerSide.startEnv),
    .call false {} (.buildConnectorMeta soloPrompt),
    .call true {} (.buildConnectorMeta soloPrompt),
    .call true {} (.startLoadKv (some "r") { reply := none }),
    .call true {} (.refinementStarts "r" 0),
    .call true {} (.refinementEnds "r" 0 none),
    .call true { now := 4000000 } (.getNumNewMatchedTokens { soloPrompt with requestId := some "q" } 0
      SchedulerSide.startEnv),
    .call false { now := 4000000 } (.startLoadKv (some "r") { reply := none }),
    .call false { now := 4000000 } (.refinementStarts "r" 0),
    .call false { now := 4000000 } (.refinementEnds "r" 0 none),
    .call false { now := 4000000 } (.waitForLayerLoad "layer_0")]

/-- The first connector's layer is there, although the second one has made the service drop the manifest, and
its refinement thread got the object. -/
theorem connectors_isolated_duo :
    (deploymentMachine Half duoSetup).answer duoRun (.call false {} (.waitForLayerLoad "layer_0")) =
        .call (.layer (some ⟨[1, 1, 1, 1], [1], rfl⟩)) ∧
      ((deploymentMachine Half duoSetup).notes (Deployment.callsOf false) duoRun).filterMap
          (fun | .refinementEnds _ _ reply => reply | _ => none) = [[2, 0]] ∧
      ((deploymentMachine Half duoSetup).exec (duoRun.filter (DeploymentOp.keeps false))).connectors false =
        ((deploymentMachine Half duoSetup).exec duoRun).connectors false ∧
      (deploymentMachine Half duoSetup).notes (Deployment.callsOf false) (duoRun.filter (DeploymentOp.keeps false)) =
        (deploymentMachine Half duoSetup).notes (Deployment.callsOf false) duoRun ∧
      ((deploymentMachine Half duoSetup).trace (duoRun.filter (DeploymentOp.keeps false))).filter
          (fun x => x.1.seen false) =
        ((deploymentMachine Half duoSetup).trace duoRun).filter (fun x => x.1.seen false) :=
  ⟨by decide +kernel, by decide +kernel,
    connectors_isolated false duoRun (by simp [Clocked, duoRun, DeploymentOp.now, ServiceOp.now])⟩

end AwareKV

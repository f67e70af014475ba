import AwareKV.Types

/-!
# AwareKV.Adapter — what the connector reads from vLLM's objects

Translation of the `extract_*` functions of `connector/vllm_adapter.py` that the connector calls.
vLLM's objects are records of the attributes these functions look for; an attribute that an object
does not have is `none`.
-/

namespace AwareKV

/-- A request object. -/
structure Request where
  requestId : Option ReqId := none
  id : Option ReqId := none
  /-- `str(id(request))` -/
  address : String := ""
  promptTokenIds : Option (List ℤ) := none
  inputsPromptTokenIds : Option (List ℤ) := none
  tokens : Option (List ℤ) := none
  deriving DecidableEq

/-- `extract_request_id`. -/
def extractRequestId (r : Request) : ReqId :=
  match r.requestId, r.id with
  | some i, _ => i
  | none, some i => i
  | none, none => r.address

/-- `extract_prompt_tokens`. -/
def extractPromptTokens (r : Request) : List ℤ :=
  match r.promptTokenIds, r.inputsPromptTokenIds, r.tokens with
  | some ts, _, _ => ts
  | none, some ts, _ => ts
  | none, none, some ts => ts
  | none, none, none => []

/-- An element of `scheduled_seq_groups`. -/
structure SeqGroup where
  seqGroup : Option Request := none
  blockTable : Option (List ℤ) := none
  deriving DecidableEq

/-- An element of `seq_group_metadata_list`; `blockTables` are the values of the dictionary. -/
structure SeqGroupMeta where
  requestId : Option ReqId := none
  blockTables : Option (List (List ℤ)) := none
  blockTable : Option (List ℤ) := none
  deriving DecidableEq

/-- A scheduler output. -/
structure SchedulerOutput where
  blocks : Option (List ℤ) := none
  scheduledSeqGroups : Option (List SeqGroup) := none
  seqGroupMetadataList : Option (List SeqGroupMeta) := none
  deriving DecidableEq

/-- The block table of a sequence group of request `rid`. -/
def SeqGroup.blocksOf (rid : ReqId) (g : SeqGroup) : Option (List ℤ) :=
  match g.seqGroup with
  | some r => if extractRequestId r = rid then g.blockTable else none
  | none => none

/-- The block table of a sequence group's metadata of request `rid`. -/
def SeqGroupMeta.blocksOf (rid : ReqId) (g : SeqGroupMeta) : Option (List ℤ) :=
  if g.requestId = some rid then
    match g.blockTables with
    | some bts => bts.head?
    | none => g.blockTable
  else none

/-- `extract_allocated_blocks`. -/
def extractAllocatedBlocks (out : SchedulerOutput) (rid : ReqId) : List ℤ :=
  match out.blocks, (out.scheduledSeqGroups.getD []).findSome? (SeqGroup.blocksOf rid),
      (out.seqGroupMetadataList.getD []).findSome? (SeqGroupMeta.blocksOf rid) with
  | some bs, _, _ => bs
  | none, some bs, _ => bs
  | none, none, some bs => bs
  | none, none, none => []

/-- Attention metadata: `slot_mapping` of the object itself, or of its own `attn_metadata`.  The
outer option is the attribute, the inner one its value. -/
structure AttnMetadata where
  slotMapping : Option (Option (List ℤ)) := none
  attnSlotMapping : Option (Option (List ℤ)) := none
  deriving DecidableEq

/-- `extract_slot_mapping`. -/
def extractSlotMapping (a : AttnMetadata) : Option (List ℤ) :=
  match a.slotMapping, a.attnSlotMapping with
  | some s, _ => s
  | none, some s => s
  | none, none => none

/-- `validate_connector_role`. -/
def validateConnectorRole (role : String) : Bool :=
  role ∈ ["kv_producer", "kv_consumer", "kv_both"]

end AwareKV

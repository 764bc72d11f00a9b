import ProofAgent.Knowledge.RetrievalService

/-! # Where admitted evidence comes from

The policy has allowed the retrieval from every selected source before a credential is used or
a request is sent, and requests go to selected sources only. Every chunk that an observation
accepts was shown by the answer of a selected source to the question itself, was available
there, and reached the score that the source and the agent ask for. -/
namespace ProofAgent.Knowledge

open Base RetrievalCall

variable {W : Type}

/-! ## The journal -/

/-- What a retrieval writes to its journal. -/
def retrievalJournal (W : Type) : Tracing (Retrieval W) RetrievalEvent where
  ran r r' events := r'.journal = r.journal ++ events
  refl r := (List.append_nil _).symm
  trans {a b c x y} hx hy := by rw [hy, hx, List.append_assoc]

theorem callPort_silent {α : Type} (x : Effect W ReactError α) :
    Silent (retrievalJournal W) (callPort x) :=
  Emits.focus fun r => (List.append_nil r.journal).symm

theorem note_emits (event : RetrievalEvent) :
    Emits (retrievalJournal W) (note event) (fun _ events => events = [event]) fun _ => False :=
  Emits.modify fun _ => rfl

/-! ## Requests -/

section
variable {lib : ExternalLibrary} {ports : ProviderPorts W} (b : ExternalKnowledgeBinding)
  (question : String)

/-- A request that asks the source of a binding the question. -/
def Asks (lib : ExternalLibrary) (ports : ProviderPorts W) (http : ServiceRequest) : Prop :=
  ∃ token, http = providerRequest lib ports b question token

/-- What is done for one binding. -/
def Concerns (lib : ExternalLibrary) (ports : ProviderPorts W) : RetrievalEvent → Prop
  | .decided .. => False
  | .credentialUsed id => id = b.bindingId
  | .posted id http => id = b.bindingId ∧ Asks b question lib ports http
  | .answered id http _ => id = b.bindingId ∧ Asks b question lib ports http

def AllConcern (lib : ExternalLibrary) (ports : ProviderPorts W) (events : List RetrievalEvent) :
    Prop :=
  ∀ e ∈ events, Concerns b question lib ports e

variable {b question}

theorem AllConcern.nil : AllConcern b question lib ports [] := fun _ h => absurd h List.not_mem_nil

theorem AllConcern.append {x y : List RetrievalEvent} (hx : AllConcern b question lib ports x)
    (hy : AllConcern b question lib ports y) : AllConcern b question lib ports (x ++ y) := by
  intro e he
  rcases List.mem_append.mp he with he | he
  · exact hx e he
  · exact hy e he

theorem AllConcern.one {e : RetrievalEvent} (h : Concerns b question lib ports e) :
    AllConcern b question lib ports [e] := by
  intro e' he'
  rw [List.mem_singleton.mp he']
  exact h

theorem bearerToken_emits : Emits (retrievalJournal W) (bearerToken ports b)
    (fun _ => AllConcern b question lib ports) (AllConcern b question lib ports) := by
  unfold bearerToken
  refine Silent.require.andThen .nil fun _ => ?_
  refine (note_emits _).bind (fun _ h => h.elim) fun _ events he => ?_
  rw [he]
  have hused : AllConcern b question lib ports [.credentialUsed b.bindingId] := .one rfl
  refine ((callPort_silent _).andThen rfl fun material => ?_ : Silent _ _).conseq
    (fun _ _ h => by rw [h]; exact hused) fun _ h => by rw [h]; exact hused
  refine Silent.require.andThen rfl fun _ => ?_
  refine Silent.ofExcept.andThen rfl fun token => ?_
  exact Silent.require.andThen rfl fun _ => Silent.ret

/-- The service of a binding answered the question with some data. -/
def Answered (lib : ExternalLibrary) (ports : ProviderPorts W) (b : ExternalKnowledgeBinding)
    (question : String) (data : Json) (events : List RetrievalEvent) : Prop :=
  ∃ http, Asks b question lib ports http ∧ .answered b.bindingId http data ∈ events

theorem Answered.mono {data : Json} {x y : List RetrievalEvent}
    (h : Answered lib ports b question data x) (hsub : x ⊆ y) :
    Answered lib ports b question data y := by
  obtain ⟨http, hasks, hmem⟩ := h
  exact ⟨http, hasks, hsub hmem⟩

/-- **A post** is for its binding, and returns what the service answered. -/
theorem post_emits : Emits (retrievalJournal W) (post lib ports b question)
    (fun data events => AllConcern b question lib ports events ∧
      Answered lib ports b question data events) (AllConcern b question lib ports) := by
  have htoken : Emits (retrievalJournal W)
      (Effect.attempt (bearerToken ports b) fun _ =>
        Effect.raise (knowledgeError "credential_unavailable"))
      (fun _ => AllConcern b question lib ports) (AllConcern b question lib ports) := by
    refine bearerToken_emits.attempt fun _ events he => Emits.raise ?_
    rw [List.append_nil]
    exact he
  unfold post
  refine htoken.bind (fun _ h => h) fun token events he => ?_
  dsimp only
  have hasks : Asks b question lib ports (providerRequest lib ports b question token) := ⟨token, rfl⟩
  refine (note_emits _).bind (fun _ h => h.elim) fun _ posted hposted => ?_
  rw [hposted]
  have hsofar : AllConcern b question lib ports
      (events ++ [.posted b.bindingId (providerRequest lib ports b question token)]) :=
    he.append (.one ⟨rfl, hasks⟩)
  have hquiet : ∀ {x : List RetrievalEvent}, NoEvent x → AllConcern b question lib ports
      (events ++ ([.posted b.bindingId (providerRequest lib ports b question token)] ++ x)) := by
    rintro _ rfl
    rw [List.append_nil]
    exact hsofar
  refine Silent.andThen ?_ (hquiet rfl) fun response => ?_
  · refine (callPort_silent _).attempt fun _ x hx => Emits.raise ?_
    rw [hx]
    rfl
  refine Silent.require.andThen (hquiet rfl) fun _ => ?_
  refine Silent.require.andThen (hquiet rfl) fun _ => ?_
  refine Silent.require.andThen (hquiet rfl) fun _ => ?_
  refine Silent.ofExcept.andThen (hquiet rfl) fun data => ?_
  refine (note_emits _).bind (fun _ h => h.elim) fun _ answered hanswered => ?_
  rw [hanswered]
  refine Emits.ret ⟨?_, _, hasks, ?_⟩
  · rw [← List.append_assoc, List.append_nil]
    exact hsofar.append (.one ⟨rfl, hasks⟩)
  · simp

theorem providerQuery_emits : Emits (retrievalJournal W) (providerQuery lib ports b question)
    (fun result events => AllConcern b question lib ports events ∧ ∃ data,
      Answered lib ports b question data events ∧ providerResult lib b question data = some result)
    (AllConcern b question lib ports) := by
  unfold providerQuery
  refine Silent.ofExcept.andThen .nil fun _ => ?_
  refine post_emits.bind (fun _ h => h) fun data events he => ?_
  refine (Emits.ofExcept (t := retrievalJournal W)).conseq (fun result x hx => ?_) fun x hx => ?_
  · obtain ⟨hx, hresult⟩ := hx
    rw [hx, List.append_nil]
    exact ⟨he.1, data, he.2, orRaise_ok hresult⟩
  · rw [hx, List.append_nil]
    exact he.1

/-- Of bindings with different ids, a query finds the one that is asked for. -/
theorem find_binding (sources : ExternalKnowledgeRuntime) (hmem : b ∈ sources.bindings) :
    sources.bindings.reverse.find? (fun other => other.bindingId = b.bindingId) = some b := by
  have hsome : ∃ other ∈ sources.bindings.reverse, decide (other.bindingId = b.bindingId) = true :=
    ⟨b, List.mem_reverse.mpr hmem, decide_eq_true rfl⟩
  obtain ⟨other, hother⟩ := Option.isSome_iff_exists.mp (List.find?_isSome.mpr hsome)
  have hid := List.find?_some hother
  rw [hother, List.inj_on_of_nodup_map sources.unique
    (List.mem_reverse.mp (List.mem_of_find?_eq_some hother)) hmem
    (of_decide_eq_true (p := other.bindingId = b.bindingId) hid)]

theorem query_emits (sources : ExternalKnowledgeRuntime) (hmem : b ∈ sources.bindings) :
    Emits (retrievalJournal W) (sources.query lib ports b.bindingId question)
      (fun result events => AllConcern b question lib ports events ∧ ∃ data,
        Answered lib ports b question data events ∧
          providerResult lib b question data = some result)
      (AllConcern b question lib ports) := by
  unfold ExternalKnowledgeRuntime.query
  rw [find_binding sources hmem]
  exact providerQuery_emits

end

/-! ## Collected chunks -/

section
variable {lib : ExternalLibrary} {ports : RetrievalPorts W} {request : KnowledgeRetrievalRequest}
  {sources : ExternalKnowledgeRuntime}

/-- A chunk was made of a candidate that the service of a binding answered the question with,
among the first ones that are taken. -/
def ChunkOfAnswer (lib : ExternalLibrary) (ports : ProviderPorts W)
    (request : KnowledgeRetrievalRequest) (b : ExternalKnowledgeBinding)
    (events : List RetrievalEvent) (c : GovernedChunk) : Prop :=
  ∃ data result candidate observedAt, Answered lib ports b request.question data events ∧
    providerResult lib b request.question data = some result ∧
    candidate ∈ sliceTo (min b.topK request.topK) result.candidates ∧
    chunkOf lib b request.minScore observedAt candidate = .ok c

theorem ChunkOfAnswer.mono {b : ExternalKnowledgeBinding} {c : GovernedChunk}
    {x y : List RetrievalEvent} (h : ChunkOfAnswer lib ports.toProviderPorts request b x c)
    (hsub : x ⊆ y) : ChunkOfAnswer lib ports.toProviderPorts request b y c := by
  obtain ⟨data, result, candidate, observedAt, hanswered, hrest⟩ := h
  exact ⟨data, result, candidate, observedAt, hanswered.mono hsub, hrest⟩

theorem collectFrom_emits {b : ExternalKnowledgeBinding} (hmem : b ∈ sources.bindings) :
    Emits (retrievalJournal W) (collectFrom lib ports request sources b)
      (fun chunks events => AllConcern b request.question lib ports.toProviderPorts events ∧
        ∀ c ∈ chunks, ChunkOfAnswer lib ports.toProviderPorts request b events c)
      (AllConcern b request.question lib ports.toProviderPorts) := by
  unfold collectFrom
  refine (callPort_silent _).andThen .nil fun _ => ?_
  refine (query_emits sources hmem).bind (fun _ h => h) fun result events he => ?_
  obtain ⟨hall, data, hanswered, hresult⟩ := he
  have hquiet : ∀ {x : List RetrievalEvent}, NoEvent x →
      AllConcern b request.question lib ports.toProviderPorts (events ++ x) := by
    rintro _ rfl
    rw [List.append_nil]
    exact hall
  refine Silent.require.andThen (hquiet rfl) fun _ => ?_
  refine Silent.require.andThen (hquiet rfl) fun _ => ?_
  refine (callPort_silent _).andThen (hquiet rfl) fun observedAt => ?_
  refine Emits.ofExcept.quietly (hquiet rfl) fun chunks hchunks => ?_
  refine (callPort_silent _).andThen (hquiet rfl) fun _ => ?_
  refine Emits.ret ⟨hquiet rfl, fun c hc => ?_⟩
  obtain ⟨candidate, hcandidate, hchunk⟩ := mapM_ok_mem hchunks hc
  rw [List.append_nil]
  exact ⟨data, result, candidate, observedAt, hanswered, hresult, hcandidate, hchunk⟩

/-- What is done for one of several bindings. -/
def AllConcernSome (lib : ExternalLibrary) (ports : ProviderPorts W) (question : String)
    (bindings : List ExternalKnowledgeBinding) (events : List RetrievalEvent) : Prop :=
  ∀ e ∈ events, ∃ b ∈ bindings, Concerns b question lib ports e

/-- **Collecting** asks the given sources only, and every chunk is of an answer. -/
theorem collect_emits : ∀ {bindings : List ExternalKnowledgeBinding},
    bindings ⊆ sources.bindings → Emits (retrievalJournal W)
      (collect lib ports request sources bindings)
      (fun chunks events => AllConcernSome lib ports.toProviderPorts request.question bindings
          events ∧
        ∀ c ∈ chunks, ∃ b ∈ bindings, ChunkOfAnswer lib ports.toProviderPorts request b events c)
      (AllConcernSome lib ports.toProviderPorts request.question bindings)
  | [], _ => Emits.ret ⟨fun _ h => absurd h List.not_mem_nil, fun _ h => absurd h List.not_mem_nil⟩
  | b :: rest, hsub => by
    have hone : ∀ {x : List RetrievalEvent},
        AllConcern b request.question lib ports.toProviderPorts x →
        AllConcernSome lib ports.toProviderPorts request.question (b :: rest) x :=
      fun h e he => ⟨b, List.mem_cons_self .., h e he⟩
    have hmore : ∀ {x y : List RetrievalEvent},
        AllConcern b request.question lib ports.toProviderPorts x →
        AllConcernSome lib ports.toProviderPorts request.question rest y →
        AllConcernSome lib ports.toProviderPorts request.question (b :: rest) (x ++ y) := by
      intro x y hx hy e he
      rcases List.mem_append.mp he with he | he
      · exact hone hx e he
      · obtain ⟨b', hb', hconcerns⟩ := hy e he
        exact ⟨b', List.mem_cons_of_mem _ hb', hconcerns⟩
    rw [collect]
    refine (collectFrom_emits (hsub (List.mem_cons_self ..))).bind (fun _ h => hone h)
      fun chunks events he => ?_
    obtain ⟨hall, hchunks⟩ := he
    refine (collect_emits fun b' hb' => hsub (List.mem_cons_of_mem _ hb')).bind
      (fun _ h => hmore hall h) fun others events' he' => ?_
    obtain ⟨hall', hothers⟩ := he'
    refine Emits.ret ⟨?_, fun c hc => ?_⟩
    · rw [List.append_nil]
      exact hmore hall hall'
    · rw [List.append_nil]
      rcases List.mem_append.mp hc with hc | hc
      · exact ⟨b, List.mem_cons_self .., (hchunks c hc).mono (List.subset_append_left ..)⟩
      · obtain ⟨b', hb', hchunk⟩ := hothers c hc
        exact ⟨b', List.mem_cons_of_mem _ hb', hchunk.mono (List.subset_append_right ..)⟩

/-! ## Authorization -/

/-- The policy allowed the retrieval from every one of the bindings. -/
def allowedAll (bindings : List ExternalKnowledgeBinding) : List RetrievalEvent :=
  bindings.map fun b => .decided b.bindingId .allow

/-- The policy allowed the retrieval from some first bindings, but not from the next one. -/
def Denied (bindings : List ExternalKnowledgeBinding) (events : List RetrievalEvent) : Prop :=
  ∃ before b after decision, bindings = before ++ b :: after ∧ decision ≠ .allow ∧
    events = allowedAll before ++ [.decided b.bindingId decision]

def OnlyDecisions (events : List RetrievalEvent) : Prop :=
  ∀ e ∈ events, ∃ id decision, e = .decided id decision

theorem allowedAll_onlyDecisions (bindings : List ExternalKnowledgeBinding) :
    OnlyDecisions (allowedAll bindings) := by
  intro e he
  obtain ⟨b, -, rfl⟩ := List.mem_map.mp he
  exact ⟨_, _, rfl⟩

theorem Denied.onlyDecisions {bindings : List ExternalKnowledgeBinding}
    {events : List RetrievalEvent} (h : Denied bindings events) : OnlyDecisions events := by
  obtain ⟨before, b, after, decision, -, -, rfl⟩ := h
  intro e he
  rcases List.mem_append.mp he with he | he
  · exact allowedAll_onlyDecisions before e he
  · exact ⟨_, _, List.mem_singleton.mp he⟩

theorem authorize_emits (b : ExternalKnowledgeBinding) :
    Emits (retrievalJournal W) (authorize ports request b)
      (fun allowed events => ∃ decision, events = [.decided b.bindingId decision] ∧
        (allowed = true ↔ decision = .allow))
      fun events => events = [] ∨ ∃ decision, events = [.decided b.bindingId decision] := by
  unfold authorize
  refine Emits.ofExcept.quietly (.inl rfl) fun decision _ => ?_
  refine (note_emits _).bind (fun _ h => h.elim) fun _ events he => ?_
  rw [he]
  refine (callPort_silent _).andThen (.inr ⟨decision.decision, rfl⟩) fun _ => ?_
  exact Emits.ret ⟨decision.decision, rfl, decide_eq_true_iff⟩

/-- **Authorization** allows all bindings, or stops at the first one that is not allowed. -/
theorem authorizeAll_emits : ∀ bindings : List ExternalKnowledgeBinding,
    Emits (retrievalJournal W) (authorizeAll ports request bindings)
      (fun allowed events => (allowed = true ∧ events = allowedAll bindings) ∨
        allowed = false ∧ Denied bindings events)
      OnlyDecisions
  | [] => Emits.ret (.inl ⟨rfl, rfl⟩)
  | b :: rest => by
    rw [authorizeAll]
    refine (authorize_emits b).bind (fun events he => ?_) fun allowed events he => ?_
    · rcases he with rfl | ⟨decision, rfl⟩
      · exact fun _ h => absurd h List.not_mem_nil
      · exact fun e he => ⟨_, _, List.mem_singleton.mp he⟩
    obtain ⟨decision, rfl, hiff⟩ := he
    refine Emits.ite (fun hallowed => ?_) fun hdenied => ?_
    · obtain rfl := hiff.mp hallowed
      refine (authorizeAll_emits rest).conseq (fun allowed events he => ?_) fun events he => ?_
      · rcases he with ⟨rfl, rfl⟩ | ⟨rfl, before, b', after, decision, rfl, hne, rfl⟩
        · exact .inl ⟨rfl, rfl⟩
        · exact .inr ⟨rfl, b :: before, b', after, decision, rfl, hne, rfl⟩
      · intro e he'
        rcases List.mem_cons.mp he' with rfl | he'
        · exact ⟨_, _, rfl⟩
        · exact he e he'
    · refine Emits.ret (.inr ⟨rfl, [], b, rest, decision, rfl, fun h => ?_, rfl⟩)
      exact hdenied (hiff.mpr h)

/-! ## The whole retrieval -/

/-- The sources of an agent. -/
def boundSources (ports : RetrievalPorts W) : List ExternalKnowledgeBinding :=
  ports.externalKnowledge.elim [] (·.bindings)

/-- The preferred sources, or all where none is preferred. -/
def selectedFrom (ports : RetrievalPorts W) (preferred : List String) :
    List ExternalKnowledgeBinding :=
  (boundSources ports).filter fun b => preferred = [] || preferred.contains b.bindingId

/-- What a retrieval may have done: it asked the policy only, or, after the policy had allowed
every selected source, it asked the selected sources too. -/
def Governed (lib : ExternalLibrary) (ports : ProviderPorts W) (question : String)
    (selected : List ExternalKnowledgeBinding) (events : List RetrievalEvent) : Prop :=
  OnlyDecisions events ∨ ∃ asked, events = allowedAll selected ++ asked ∧
    AllConcernSome lib ports question selected asked

theorem resultForEvidence_evidence (evidence : List GovernedChunk) (reasonCode : String) :
    Emits (retrievalJournal W) (resultForEvidence ports request evidence reasonCode)
      (fun result events => NoEvent events ∧ result.evidence = evidence) NoEvent := by
  unfold resultForEvidence
  refine Silent.andThen ?_ rfl fun _ => Emits.ret ⟨rfl, rfl⟩
  unfold evaluate
  exact (callPort_silent _).andThen rfl fun _ => Silent.ret

theorem retrieveExternal_emits : Emits (retrievalJournal W)
    (retrieveExternal lib ports request sources)
    (fun result events =>
      Governed lib ports.toProviderPorts request.question (selectedBindings request sources) events ∧
      ∀ c ∈ result.evidence, ∃ b ∈ selectedBindings request sources,
        ChunkOfAnswer lib ports.toProviderPorts request b events c)
    (Governed lib ports.toProviderPorts request.question (selectedBindings request sources)) := by
  have hnone : Governed lib ports.toProviderPorts request.question
      (selectedBindings request sources) [] :=
    .inl fun _ h => absurd h List.not_mem_nil
  unfold retrieveExternal
  refine Silent.require.andThen hnone fun _ => ?_
  refine (authorizeAll_emits _).bind (fun _ h => .inl h) fun allowed events he => ?_
  rcases he with ⟨rfl, rfl⟩ | ⟨rfl, hdenied⟩
  · rw [if_pos rfl]
    refine (collect_emits fun b hb => (List.mem_filter.mp hb).1).bind (fun asked h => .inr ⟨asked, rfl, h⟩)
      fun chunks asked he => ?_
    obtain ⟨hasked, hchunks⟩ := he
    refine (resultForEvidence_evidence _ _).conseq (fun result x hx => ?_) fun x hx => ?_
    · obtain ⟨rfl, hevidence⟩ := hx
      rw [List.append_nil]
      refine ⟨.inr ⟨asked, rfl, hasked⟩, fun c hc => ?_⟩
      rw [hevidence] at hc
      split at hc
      · cases hc
      · obtain ⟨b, hb, hchunk⟩ := hchunks c hc
        exact ⟨b, hb, hchunk.mono (List.subset_append_right ..)⟩
    · rw [hx, List.append_nil]
      exact .inr ⟨asked, rfl, hasked⟩
  · rw [if_neg Bool.false_ne_true]
    refine (resultForEvidence_evidence _ _).conseq (fun result x hx => ?_) fun x hx => ?_
    · obtain ⟨rfl, hevidence⟩ := hx
      rw [List.append_nil]
      refine ⟨.inl hdenied.onlyDecisions, fun c hc => ?_⟩
      rw [hevidence] at hc
      cases hc
    · rw [hx, List.append_nil]
      exact .inl hdenied.onlyDecisions

/-- What a retrieval from a selection of the sources may have done. -/
def GovernedSelection (lib : ExternalLibrary) (ports : RetrievalPorts W) (preferred : List String)
    (question : String) (events : List RetrievalEvent) : Prop :=
  Governed lib ports.toProviderPorts question (selectedFrom ports preferred) events

theorem retrieve_emits : Emits (retrievalJournal W) (retrieve lib ports request)
    (fun result events => GovernedSelection lib ports request.preferredBindingIds request.question
        events ∧
      ∀ c ∈ result.evidence, ∃ b ∈ selectedFrom ports request.preferredBindingIds,
        ChunkOfAnswer lib ports.toProviderPorts request b events c)
    (GovernedSelection lib ports request.preferredBindingIds request.question) := by
  have hnothing : GovernedSelection lib ports request.preferredBindingIds request.question [] :=
    .inl fun _ h => absurd h List.not_mem_nil
  unfold retrieve
  cases hsources : ports.externalKnowledge with
  | none =>
    refine (resultForEvidence_evidence _ _).conseq (fun result x hx => ?_) fun x hx => ?_
    · obtain ⟨rfl, hevidence⟩ := hx
      refine ⟨hnothing, fun c hc => ?_⟩
      rw [hevidence] at hc
      cases hc
    · rw [hx]
      exact hnothing
  | some sources =>
    have hselected : selectedFrom ports request.preferredBindingIds =
        selectedBindings request sources := by
      unfold selectedFrom boundSources
      rw [hsources]
      rfl
    unfold GovernedSelection
    rw [hselected]
    exact retrieveExternal_emits

end

/-! ## Admitted candidates -/

section
variable {lib : ExternalLibrary} {b : ExternalKnowledgeBinding}

/-- The rows that the service of a binding shows. -/
def answerRows (b : ExternalKnowledgeBinding) (data : Json) : List Json :=
  match b.source with
  | .dify .. => (data.readField readRows "records").getD []
  | .agentset .. => (data.readField readRows "data").getD []

/-- The candidate that a row is read as. -/
def rowCandidate (lib : ExternalLibrary) (b : ExternalKnowledgeBinding) (row : Json) :
    Option (ExternalKnowledgeCandidate lib) :=
  match b.source with
  | .dify .. => difyCandidate lib (b.contentFormat = .structuredJson) row
  | .agentset .. => agentsetCandidate lib (b.contentFormat = .structuredJson) row

/-- **A result** is read row by row, and no two candidates have one identity. -/
theorem providerResult_some {question : String} {data : Json} {result : ExternalKnowledgeResult lib}
    (h : providerResult lib b question data = some result) : ∃ candidates,
      (answerRows b data).mapM (rowCandidate lib b) = some candidates ∧
      (candidates.map fun c => (c.documentId, c.chunkId)).Nodup ∧
      result.candidates = candidates.take b.topK := by
  unfold answerRows
  unfold rowCandidate
  unfold providerResult at h
  cases hsource : b.source with
  | dify datasetId retrieval valid =>
    simp only [hsource] at h ⊢
    unfold difyResult at h
    obtain ⟨returned, -, h⟩ := Option.bind_eq_some_iff.mp h
    obtain ⟨records, hrecords, h⟩ := Option.bind_eq_some_iff.mp h
    obtain ⟨candidates, hcandidates, h⟩ := Option.bind_eq_some_iff.mp h
    split at h
    · rename_i hvalid
      cases h
      rw [hrecords]
      exact ⟨candidates, hcandidates, hvalid.2.2, rfl⟩
    · cases h
  | agentset namespaceId tenantId retrieval valid valid_tenant =>
    simp only [hsource] at h ⊢
    unfold agentsetResult at h
    obtain ⟨success, -, h⟩ := Option.bind_eq_some_iff.mp h
    obtain ⟨rows, hrows, h⟩ := Option.bind_eq_some_iff.mp h
    obtain ⟨candidates, hcandidates, h⟩ := Option.bind_eq_some_iff.mp h
    split at h
    · rename_i hvalid
      cases h
      rw [hrows]
      refine ⟨candidates, hcandidates, ?_, rfl⟩
      refine List.Nodup.of_map Prod.snd ?_
      rw [List.map_map]
      exact hvalid.2.2
    · cases h

theorem mem_sliceTo {α : Type} {n : Int} {xs : List α} {a : α} (h : a ∈ sliceTo n xs) : a ∈ xs := by
  unfold sliceTo at h
  split at h <;> exact List.mem_of_mem_take h

theorem exists_of_forall₂ {α β : Type} {R : α → β → Prop} {xs : List α} {ys : List β}
    (h : List.Forall₂ R xs ys) {y : β} (hy : y ∈ ys) : ∃ x ∈ xs, R x y := by
  induction h with
  | nil => cases hy
  | cons hxy _ ih =>
    rcases List.mem_cons.mp hy with rfl | hy
    · exact ⟨_, List.mem_cons_self .., hxy⟩
    · obtain ⟨x, hx, hrel⟩ := ih hy
      exact ⟨x, List.mem_cons_of_mem _ hx, hrel⟩

/-- A candidate of a result is one of the rows. -/
theorem mem_rows {question : String} {data : Json} {result : ExternalKnowledgeResult lib}
    {candidate : ExternalKnowledgeCandidate lib}
    (h : providerResult lib b question data = some result) (hmem : candidate ∈ result.candidates) :
    ∃ row ∈ answerRows b data, rowCandidate lib b row = some candidate := by
  obtain ⟨candidates, hread, -, htake⟩ := providerResult_some h
  rw [htake] at hmem
  have hread := Json.mapM_eq_some_iff.mp hread
  exact exists_of_forall₂ hread (List.mem_of_mem_take hmem)

theorem lt_asymm {x y : PyFloat} (h : x.lt y = true) : y.lt x = false := by
  rw [PyFloat.lt, decide_eq_true_eq] at h
  rw [PyFloat.lt, decide_eq_false_iff_not, min_comm]
  omega

/-- **The gate** lets an available candidate in that reaches both thresholds. -/
theorem admitted_reaches {minScore : PyFloat} {candidate : ExternalKnowledgeCandidate lib}
    (h : admitted lib b minScore candidate = true) : candidate.available = true ∧
      candidate.nativeScore.value.lt b.scoreThreshold.value = false ∧
      candidate.nativeScore.value.lt minScore = false := by
  unfold admitted at h
  obtain ⟨havailable, hscore⟩ := Bool.and_eq_true_iff.mp h
  rw [Bool.not_eq_true'] at hscore
  refine ⟨havailable, ?_⟩
  split at hscore
  · rename_i hlower
    refine ⟨?_, hscore⟩
    by_contra hbelow
    have hback := PyFloat.lt_of_le_of_lt hscore (Bool.eq_true_of_not_eq_false hbelow)
    rw [lt_asymm hlower] at hback
    cases hback
  · rename_i hlower
    refine ⟨hscore, ?_⟩
    by_contra hbelow
    exact hlower (PyFloat.lt_of_le_of_lt hscore (Bool.eq_true_of_not_eq_false hbelow))

/-- A chunk was admitted on a candidate of a binding: the candidate was available and reached
both scores, and the chunk shows its content, and cites it by the digest of its content. -/
structure Admits (lib : ExternalLibrary) (b : ExternalKnowledgeBinding) (minScore : PyFloat)
    (candidate : ExternalKnowledgeCandidate lib) (chunk : EvidenceChunk) : Prop where
  available : candidate.available = true
  threshold : candidate.nativeScore.value.lt b.scoreThreshold.value = false
  score : candidate.nativeScore.value.lt minScore = false
  status : chunk.status = .accepted
  content : chunk.content = candidate.content
  source : externalEvidenceSource b.provider b.bindingId b.sourceId candidate.documentId
    candidate.chunkId b.tenantId = .ok chunk.source
  citation : chunk.citation =
    some (segmentCitation chunk.source candidate.chunkId (lib.sha256 chunk.content))
  made : ∃ observedAt c, chunkOf lib b minScore observedAt candidate = .ok c ∧
    chunk = { c with status := .accepted }.evidence

/-- What a chunk shows of its candidate. -/
structure ChunkShows (lib : ExternalLibrary) (b : ExternalKnowledgeBinding) (minScore : PyFloat)
    (candidate : ExternalKnowledgeCandidate lib) (c : GovernedChunk) : Prop where
  source : externalEvidenceSource b.provider b.bindingId b.sourceId candidate.documentId
    candidate.chunkId b.tenantId = .ok c.source
  content : c.content = candidate.content
  citation : c.citation = segmentCitation c.source candidate.chunkId candidate.contentSha256
  status : c.status = if admitted lib b minScore candidate = true then .candidate else .rejected

theorem chunkOf_shows {minScore : PyFloat} {observedAt : String}
    {candidate : ExternalKnowledgeCandidate lib} {c : GovernedChunk}
    (h : chunkOf lib b minScore observedAt candidate = .ok c) :
    ChunkShows lib b minScore candidate c := by
  unfold chunkOf at h
  obtain ⟨source, hsource, h⟩ := bind_ok h
  obtain ⟨_, -, h⟩ := bind_ok h
  cases pure_ok h
  exact ⟨hsource, rfl, rfl, rfl⟩

/-- **An accepted chunk** was let in by the gate. -/
theorem accepted_admits {minScore : PyFloat} {observedAt : String}
    {candidate : ExternalKnowledgeCandidate lib} {c : GovernedChunk}
    (h : chunkOf lib b minScore observedAt candidate = .ok c) (hreaches : reaches minScore c = true) :
    Admits lib b minScore candidate { c with status := .accepted }.evidence := by
  have hshows := chunkOf_shows h
  unfold reaches at hreaches
  obtain ⟨hstatus, -⟩ := Bool.and_eq_true_iff.mp hreaches
  have hadmitted : admitted lib b minScore candidate = true := by
    by_contra hnot
    rw [hshows.status, if_neg hnot] at hstatus
    exact absurd rfl (of_decide_eq_true hstatus)
  obtain ⟨havailable, hthreshold, hscore⟩ := admitted_reaches hadmitted
  refine ⟨havailable, hthreshold, hscore, rfl, hshows.content, hshows.source, ?_, _, _, h, rfl⟩
  show some c.citation = some (segmentCitation c.source candidate.chunkId (lib.sha256 c.content))
  rw [hshows.citation, hshows.content, candidate.verified.2.1]

end

/-! ## Observations -/

section
variable {lib : ExternalLibrary}

/-- An accepted chunk rests on a row that the service of a binding answered the question with. -/
def AdmittedFrom (lib : ExternalLibrary) (ports : ProviderPorts W) (b : ExternalKnowledgeBinding)
    (question : String) (minScore : PyFloat) (events : List RetrievalEvent) (chunk : EvidenceChunk) :
    Prop :=
  ∃ data row candidate, Answered lib ports b question data events ∧ row ∈ answerRows b data ∧
    rowCandidate lib b row = some candidate ∧ Admits lib b minScore candidate chunk

theorem admittedFrom_of_reaches {ports : RetrievalPorts W} {request : KnowledgeRetrievalRequest}
    {b : ExternalKnowledgeBinding} {events : List RetrievalEvent} {c : GovernedChunk}
    (h : ChunkOfAnswer lib ports.toProviderPorts request b events c)
    (hreaches : reaches request.minScore c = true) :
    AdmittedFrom lib ports.toProviderPorts b request.question request.minScore events
      { c with status := .accepted }.evidence := by
  obtain ⟨data, result, candidate, observedAt, hanswered, hresult, hcandidate, hchunk⟩ := h
  obtain ⟨row, hrow, hread⟩ := mem_rows hresult (mem_sliceTo hcandidate)
  exact ⟨data, row, candidate, hanswered, hrow, hread, accepted_admits hchunk hreaches⟩

/-- The question that an observation asks. -/
def observationQuery (state : ControlledReActRunState) (action : ReActActionProposal) : String :=
  (FinalAnswerAttemptRunner.stringValue (action.parameters.get? "query")).getD state.question

/-- What an observation accepted. -/
def acceptedBy (effect : ObservationEffect) : List EvidenceChunk :=
  match effect.truthArtifact with
  | .retrieval truth => truth.acceptedEvidence
  | .tool _ => []

theorem observe_emits (answers : Answers.AnswerLibrary) (sources : ObservationSources W)
    (state : ControlledReActRunState) (action : ReActActionProposal) (identity : ObservationIdentity) :
    Emits (retrievalJournal W) (observe lib answers sources state action identity)
      (fun effect events => ∃ preferred, GovernedSelection lib sources.toRetrievalPorts preferred
          (observationQuery state action) events ∧
        ∀ chunk ∈ acceptedBy effect, ∃ b ∈ selectedFrom sources.toRetrievalPorts preferred,
          AdmittedFrom lib sources.toProviderPorts b (observationQuery state action)
            sources.retrieval.minScore events chunk)
      (fun events => ∃ preferred, GovernedSelection lib sources.toRetrievalPorts preferred
        (observationQuery state action) events) := by
  have hnothing : ∀ preferred, GovernedSelection lib sources.toRetrievalPorts preferred
      (observationQuery state action) [] :=
    fun _ => .inl fun _ h => absurd h List.not_mem_nil
  unfold observe
  refine (callPort_silent _).andThen ⟨[], hnothing []⟩ fun _ => ?_
  refine (callPort_silent _).andThen ⟨[], hnothing []⟩ fun preferred => ?_
  refine retrieve_emits.bind (fun _ h => ⟨preferred, h⟩) fun result events he => ?_
  obtain ⟨hgoverned, hchunks⟩ := he
  have hquiet : ∀ {x : List RetrievalEvent}, NoEvent x →
      GovernedSelection lib sources.toRetrievalPorts preferred (observationQuery state action)
        (events ++ x) := by
    rintro _ rfl
    rw [List.append_nil]
    exact hgoverned
  refine (callPort_silent _).andThen ⟨preferred, hquiet rfl⟩ fun _ => ?_
  dsimp only
  refine (callPort_silent _).andThen ⟨preferred, hquiet rfl⟩ fun _ => ?_
  refine Silent.ofExcept.andThen ⟨preferred, hquiet rfl⟩ fun summary => ?_
  refine Emits.ret ⟨preferred, hquiet rfl, fun chunk hchunk => ?_⟩
  rw [List.append_nil]
  obtain ⟨c', hc', rfl⟩ := List.mem_map.mp hchunk
  obtain ⟨c, hc, rfl⟩ := List.mem_map.mp hc'
  obtain ⟨hmem, hreaches⟩ := List.mem_filter.mp hc
  obtain ⟨b, hb, hfrom⟩ := hchunks c hmem
  exact ⟨b, hb, admittedFrom_of_reaches hfrom hreaches⟩

end

end ProofAgent.Knowledge

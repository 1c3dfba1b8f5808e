import SealGate.Proofs.Gateway.Access
import SealGate.Proofs.Gateway.PassThrough
import SealGate.Proofs.Reader.Declared

/-! What the handlers answer. Each of them fails in the same way, with an error that has no status
of its own, and has one kind of answer: JSON that is made here, or a body that is handed out as it
comes. A listing, or what is known of a file, is the answer only to a path that can be read behind
the place of the one or the other. -/

namespace SealGate.Gateway

open Http Json Origin Outcome Reader Session Vault

/-! ### Errors without a status -/

/-- An error that brings no status of its own and can be told. -/
def IsPlain (error : Error) : Prop := error.code = 400 ∧ error.isPanic = false

theorem coded_mapError {α : Type} (result : Except Vault.Error α) :
    Blames (·.code = 400) (result.mapError Error.ofVault) := by
  have any : Blames (fun _ => True) result := fun _ _ => trivial
  exact any.mapError fun error _ => code_ofVault error

theorem plain_requireMethod (request : Request) (method : String) :
    Blames IsPlain (requireMethod request method) := by
  unfold requireMethod
  split
  · exact blames_ok _
  · exact blames_error ⟨rfl, rfl⟩

theorem plain_requireUnlocked (request : Request) (g : Gateway) :
    Blames IsPlain (g.requireUnlocked request) := by
  refine (plain_requireMethod request "GET").bind fun _ => ?_
  cases g.snapshot.unlocked? with
  | none => exact blames_error ⟨rfl, rfl⟩
  | some unlocked => exact blames_ok unlocked

theorem plain_pathAfter (request : Request) (lead : String) :
    Blames IsPlain (pathAfter request lead) := by
  unfold pathAfter
  split
  · exact blames_error ⟨rfl, rfl⟩
  · split
    · exact blames_error ⟨rfl, rfl⟩
    · exact blames_ok _

theorem plain_ready (request : Request) (lead : String) (g : Gateway) :
    Blames IsPlain (do return (← g.requireUnlocked request, ← pathAfter request lead)) :=
  (plain_requireUnlocked request g).bind fun _ => (plain_pathAfter request lead).bind fun _ =>
    blames_ok _

theorem plain_infoOf (response : Response BodyFault) : Blames IsPlain (infoOf response) := by
  unfold infoOf
  split
  · exact blames_error ⟨rfl, rfl⟩
  · exact blames_error ⟨rfl, rfl⟩
  · split
    · exact blames_error ⟨rfl, rfl⟩
    · exact blames_ok _

/-! ### Answers -/

/-- What is told in JSON that is made here, by the route of a request. -/
inductive Told (request : Request) : Route → Node → Prop
  | info {info : ServerInfo} : info.repoUnlocked.isSome → Told request .info info.toNode
  | unlock {keyId : String} : request.method = "POST" →
      Told request .unlock (UnlockAnswer.mk keyId passphraseKind).toNode
  | tree {text : String} {entries : List Entry} : request.method = "GET" →
      pathAfter request "/api/tree" = .ok text → Told request .tree (Entry.listNode entries)
  | metadata {text : String} {details : FileDetails} : request.method = "GET" →
      pathAfter request "/api/metadata/" = .ok text → Told request .metadata details.toNode

/-- What a request that a rule takes can be answered. -/
inductive Answers (request : Request) (route : Route) : Except Error (Response BodyFault) → Prop
  | failed {error : Error} : error.code = 400 → Answers request route (.error error)
  | told {node : Node} : Told request route node →
      Answers request route (.ok (jsonResponse 200 node))
  | streamed {response : Response BodyFault} :
      (response.status = 200 → ∃ items, response.body = .streamed items) →
      Answers request route (.ok response)

variable {g : Gateway} {request : Request} {route : Route}

theorem Answers.code {error : Error} (answers : Answers request route (.error error)) :
    error.code = 400 := by
  cases answers with
  | failed code => exact code

theorem answers_of_coded {result : Except Error (Response BodyFault)}
    (coded : Blames (·.code = 400) result)
    (good : ∀ response, result = .ok response → Answers request route (.ok response)) :
    Answers request route result := by
  cases result with
  | ok response => exact good response rfl
  | error error => exact .failed (coded error rfl)

/-- An answer that is made of what the index or the reader gives. -/
theorem answers_map {α : Type} {result : Except Error α} {make : α → Response BodyFault}
    (coded : Blames (·.code = 400) result) (good : ∀ value, Answers request route (.ok (make value))) :
    Answers request route (result.map make) := by
  cases result with
  | ok value => exact good value
  | error error => exact .failed (coded error rfl)

theorem relay_streams {after : Gateway} {response : Response BodyFault}
    (relayed : g.relay request = (.ok response, after)) :
    ∃ items, response.body = .streamed items := by
  rw [relay_eq] at relayed
  obtain ⟨given, -⟩ := Prod.mk.inj relayed
  cases sent : (g.engine.link.send (Link.relayed request)).1 with
  | error error =>
    rw [sent] at given
    cases given
  | ok answer =>
    rw [sent] at given
    obtain rfl := Except.ok.inj given
    exact ⟨_, rfl⟩

/-- A file that is answered in whole is handed out as it comes. -/
theorem decrypt_streams {reader : Reader} {key : MasterKey} {response : Response Vault.Error}
    (answered : (reader.decrypt key request).1 = .ok response) (whole : response.status = 200) :
    ∃ items, response.body = .streamed items := by
  obtain ⟨range, head, fileKey, answered⟩ := answered_of_decrypt answered
  cases answered with
  | refused => cases whole
  | content =>
    cases range with
    | none => exact ⟨_, rfl⟩
    | some range => cases whole

/-! ### The handlers -/

theorem answers_handleInfo (g : Gateway) (request : Request) :
    Answers request .info (g.handleInfo request).1 := by
  unfold handleInfo
  split
  · rename_i refused
    exact .failed (plain_requireMethod request "GET" _ refused).1
  split
  · rename_i failed
    exact .failed (coded_mapError _ _ (congrArg Prod.fst failed))
  split
  · rename_i failed
    exact .failed (plain_infoOf _ _ failed).1
  split
  · exact .told (.info rfl)
  · exact answers_map (coded_mapError _) fun files => .told (.info rfl)

theorem answers_handleUnlock (g : Gateway) (request : Request) :
    Answers request .unlock (g.handleUnlock request).1 := by
  unfold handleUnlock
  split
  · rename_i refused
    exact .failed (code_of_passphraseOf refused)
  rename_i passphrase usable
  split
  · exact .failed (code_ofSession _)
  · simp only [passphraseOf, bind_eq_ok] at usable
    obtain ⟨allowed, required, -⟩ := usable
    exact .told (.unlock (requireMethod_eq_ok_iff.1 required))

theorem answers_handleTree (g : Gateway) (request : Request) :
    Answers request .tree (g.handleTree request).1 := by
  unfold handleTree
  split
  · rename_i refused
    exact .failed (plain_ready request "/api/tree" g _ refused).1
  · rename_i unlocked text ready
    obtain ⟨required, read⟩ := ready_eq_ok_iff.1 ready
    have method := (requireUnlocked_eq_ok_iff.1 required).1
    exact answers_map (coded_mapError _) fun entries => .told (.tree method read)

theorem answers_handleMetadata (g : Gateway) (request : Request) :
    Answers request .metadata (g.handleMetadata request).1 := by
  unfold handleMetadata
  split
  · rename_i refused
    exact .failed (plain_ready request "/api/metadata/" g _ refused).1
  rename_i unlocked text ready
  obtain ⟨required, read⟩ := ready_eq_ok_iff.1 ready
  split
  · rename_i failed
    exact .failed (coded_mapError _ _ (congrArg Prod.fst failed))
  rename_i listed between asked
  split
  · exact .failed rfl
  · rename_i entry fileId named
    refine answers_of_coded (coded_mapError _) fun response told => ?_
    cases opened : (between.engine.facts unlocked.key fileId).1 with
    | error error =>
      simp only [opened] at told
      cases told
    | ok facts =>
      simp only [opened] at told
      obtain rfl := Except.ok.inj told
      exact .told (.metadata (requireUnlocked_eq_ok_iff.1 required).1 read)

theorem answers_handleFile (g : Gateway) (request : Request) :
    Answers request .file (g.handleFile request).1 := by
  unfold handleFile
  split
  · rename_i refused
    exact .failed (plain_requireUnlocked request g _ refused).1
  · rename_i unlocked ready
    refine answers_of_coded (coded_mapError _) fun response told => ?_
    cases answered : (g.engine.decrypt unlocked.key request).1 with
    | error error =>
      simp only [answered] at told
      cases told
    | ok opened =>
      simp only [answered] at told
      obtain rfl := Except.ok.inj told
      refine .streamed fun whole => ?_
      obtain ⟨items, streamed⟩ := decrypt_streams answered whole
      exact ⟨_, congrArg (Body.mapError BodyFault.vault) streamed⟩

theorem answers_handleOriginUnlock (g : Gateway) (request : Request) :
    Answers request .originUnlock (g.handleOriginUnlock request).1 := by
  unfold handleOriginUnlock
  split
  · rename_i failed
    exact .failed (coded_mapError _ _ (congrArg Prod.fst failed))
  · rename_i relayed
    exact .streamed fun _ => relay_streams relayed

/-- What a request can be answered by the handler of its route. -/
theorem answers_handle (g : Gateway) (route : Route) (request : Request) :
    Answers request route (g.handle route request).1 := by
  cases route with
  | info => exact answers_handleInfo g request
  | unlock => exact answers_handleUnlock g request
  | tree => exact answers_handleTree g request
  | metadata => exact answers_handleMetadata g request
  | file => exact answers_handleFile g request
  | originUnlock => exact answers_handleOriginUnlock g request

end SealGate.Gateway

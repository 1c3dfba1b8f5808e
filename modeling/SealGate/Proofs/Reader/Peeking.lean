import SealGate.Proofs.Reader.Recency
import SealGate.Proofs.Reader.Transparency
import SealGate.Proofs.Vault.Alignment

/-! When the start of a file is asked for. A call that reads a file looks for its head in the cache
and asks the origin for it only if the head is not there; everything else that a call asks for lies
behind the start of the object. So the calls that were made so far tell whether the next one asks
for the start of its file: it does if and only if the head was not read since all were dropped, or
two hundred other files were used since this one was. What the origin answers makes no difference
beyond whether a head can be read. -/

namespace SealGate

open Http Vault Origin Reader

/-! ### Requests one after the other -/

namespace Origin.Link

variable {link before after : Link} {request : Request} {rest : List Request}

/-- The link when requests have been made one after the other. -/
def askedAll (link : Link) (requests : List Request) : Link := requests.foldl asked link

/-- What has gone out between two states of a link. -/
def sentSince (before after : Link) : List Request :=
  after.sent.drop before.sent.length

/-- No other requests go out than those that are made. -/
theorem sent_askedAll (link : Link) (requests : List Request) :
    ∃ got, (link.askedAll requests).sent = link.sent ++ got ∧ got.Sublist requests := by
  induction requests generalizing link with
  | nil => exact ⟨[], (List.append_nil _).symm, .slnil⟩
  | cons request requests ih =>
    obtain ⟨got, added, among⟩ := ih (link.asked request)
    rw [sent_asked, List.append_assoc] at added
    refine ⟨_, added, ?_⟩
    split
    · exact among.cons_cons request
    · exact among.cons request

theorem sentSince_eq {got : List Request} (added : after.sent = before.sent ++ got) :
    before.sentSince after = got := by
  rw [sentSince, added, List.drop_left]

theorem not_mem_sentSince (other : request ∉ rest) :
    request ∉ link.sentSince (link.askedAll rest) := by
  obtain ⟨got, added, among⟩ := link.sent_askedAll rest
  rw [sentSince_eq added]
  exact fun mem => other (among.mem mem)

/-- A request that is made once has gone out if it reaches the origin. -/
theorem mem_sentSince_cons (other : request ∉ rest) :
    request ∈ link.sentSince (link.askedAll (request :: rest)) ↔
      link.reaches request = true := by
  obtain ⟨got, added, among⟩ := (link.asked request).sent_askedAll rest
  rw [sent_asked, List.append_assoc] at added
  have absent : request ∉ got := fun mem => other (among.mem mem)
  have since : link.sentSince (link.askedAll (request :: rest)) = _ := sentSince_eq added
  rw [since]
  by_cases reached : link.reaches request <;> simp [reached, absent]

end Origin.Link

namespace Reader

/-! ### Pieces behind the start -/

/-- A header has a length that a header can have. -/
def IsFramed (head : Head) : Prop :=
  0 < head.header.length ∧ head.header.length ≤ Header.maxLength

theorem isFramed_of_decode {data : Bytes} {key : MasterKey} {head : Head} {fileKey : Cipher.Key}
    (opened : Head.decode data key = .ok (head, fileKey)) : IsFramed head := by
  obtain ⟨parsed, -⟩ := Head.decode_ok_iff.1 opened
  obtain ⟨long, short, -⟩ := Header.of_parse parsed
  exact ⟨by omega, short⟩

theorem peek_ne_openRange (other fileId : String) (first : Nat) :
    peek other ≠ Link.objectRequest fileId (some (openRange first)) := by
  intro same
  have ranges := congrArg Link.rangeOf? same
  rw [peek, headRange_eq, Link.rangeOf?_closedRange, Link.rangeOf?_openRange] at ranges
  cases ranges

theorem peek_ne_requestHeader (other fileId : String) {head : Head} (framed : IsFramed head)
    (range : ByteRange) :
    peek other ≠ Link.objectRequest fileId (some (extentOf range head).requestHeader) := by
  intro same
  have ranges := congrArg Link.rangeOf? same
  have start : 0 < (extentOf range head).packetStart := by
    rw [Extent.packetStart, toNat_headerOffset_extentOf range framed.2]
    have long := framed.1
    omega
  have first := (extentOf range head).toNat_firstByte_min
  have most : Number.largest = 2 ^ 64 - 1 := rfl
  have shown : (extentOf range head).requestHeader =
      closedRange (extentOf range head).firstByte.toNat ((extentOf range head).endByte.toNat - 1) :=
    (extentOf range head).requestHeader_eq
  rw [peek, headRange_eq, shown, Link.rangeOf?_closedRange, Link.rangeOf?_closedRange] at ranges
  have zero := (Prod.mk.inj (Option.some.inj ranges)).1
  omega

/-! ### Calls as uses of the cache -/

/-- The file that a call reads, and the key that it is read with; a request that is refused for its
path or its range reads none. -/
def Call.file? : Call → Option (MasterKey × String)
  | .decrypt key request =>
    match fileId? request.path, requestedRange request with
    | some fileId, .ok _ => some (key, fileId)
    | _, _ => none
  | .facts key fileId => some (key, fileId)
  | .forget => none

/-- What finding the head of a file means for the cache. -/
def useOf (reader : Reader) (key : MasterKey) (fileId : String) : Use :=
  if (reader.heads.lookup? fileId).isSome then .found fileId
  else
    match (reader.head key fileId).1 with
    | .ok _ => .gained fileId
    | .error _ => .missed fileId

/-- What a call means for the cache. -/
def use (reader : Reader) : Call → Use
  | .forget => .cleared
  | call =>
    match call.file? with
    | some (key, fileId) => reader.useOf key fileId
    | none => .unused

/-- The reader when calls have been made one after the other. -/
def performAll (reader : Reader) (calls : List Call) : Reader :=
  calls.foldl (fun reader call => (reader.perform call).2) reader

/-- What calls mean for the cache that are made one after the other. -/
def uses : Reader → List Call → List Use
  | _, [] => []
  | reader, call :: rest => reader.use call :: (reader.perform call).2.uses rest

section Calls

variable {reader : Reader} {key : MasterKey} {fileId : String} {call : Call}

/-- All that can come of looking for a head: it is found, or the start of the object is asked for,
and what is opened from it is put into the cache. -/
inductive Finds (reader : Reader) (fileId : String) : Use → Reader → Prop
  | found (head : Head) (held : reader.heads.lookup? fileId = some head) :
      Finds reader fileId (.found fileId) ⟨reader.link, (reader.heads.get fileId).2⟩
  | gained (head : Head) (missing : reader.heads.lookup? fileId = none) (framed : IsFramed head) :
      Finds reader fileId (.gained fileId)
        ⟨reader.link.asked (peek fileId), reader.heads.put fileId head⟩
  | missed (missing : reader.heads.lookup? fileId = none) :
      Finds reader fileId (.missed fileId) ⟨reader.link.asked (peek fileId), reader.heads⟩

theorem head_finds (reader : Reader) (key : MasterKey) (fileId : String) :
    Finds reader fileId (reader.useOf key fileId) (reader.head key fileId).2 := by
  have first := reader.heads.get_fst fileId
  have asked := reader.link.fetch_snd fileId (some headRange)
  unfold useOf Reader.head
  rcases looked : reader.heads.get fileId with ⟨held | held, moved⟩ <;> rw [looked] at first
  · rw [← first]
    rcases fetched : reader.link.fetch fileId (some headRange) with ⟨data, link⟩
    rw [fetched] at asked
    obtain rfl : link = reader.link.asked (peek fileId) := asked
    cases opened : data.bind fun data => Head.decode data key with
    | error error => simpa [opened] using Finds.missed first.symm
    | ok pair =>
      obtain ⟨data, -, decoded⟩ := Outcome.bind_eq_ok.1 opened
      simpa [opened] using Finds.gained pair.1 first.symm (isFramed_of_decode decoded)
  · rw [← first]
    have found := Finds.found held first.symm
    rw [looked] at found
    exact found

/-- A head that is found has a length that a header can have, if those in the cache have. -/
theorem isFramed_of_head (framed : ∀ entry ∈ reader.heads.entries, IsFramed entry.2) {head : Head}
    {fileKey : Cipher.Key} (found : (reader.head key fileId).1 = .ok (head, fileKey)) :
    IsFramed head := by
  cases held : reader.heads.lookup? fileId with
  | none =>
    rw [head_of_missing key held] at found
    obtain ⟨data, -, decoded⟩ := Outcome.bind_eq_ok.1 found
    exact isFramed_of_decode decoded
  | some other =>
    rw [head_of_cached key held] at found
    cases unwrapped : other.header.unwrap key with
    | error error =>
      rw [unwrapped] at found
      cases found
    | ok second =>
      rw [unwrapped] at found
      obtain rfl : other = head := (Prod.mk.inj (Except.ok.inj found)).1
      exact framed _ (List.mem_of_find?_eq_some (reader.heads.lookup?_eq_some held))

/-- More may be asked for than was to find a head, but no start of an object. -/
def GoesOn (found after : Reader) : Prop :=
  ∃ rest, (∀ other, peek other ∉ rest) ∧ after = ⟨found.link.askedAll rest, found.heads⟩

theorem GoesOn.refl (reader : Reader) : reader.GoesOn reader := ⟨[], by simp, rfl⟩

theorem goesOn_stream (reader : Reader) {range : String}
    (behind : ∀ other, peek other ≠ Link.objectRequest fileId (some range)) :
    reader.GoesOn { reader with link := (reader.link.stream fileId (some range)).2 } := by
  rw [Link.stream_snd]
  exact ⟨[Link.objectRequest fileId (some range)], by simpa using behind, rfl⟩

/-- No range that content is asked for with is that of the start of an object. -/
theorem peek_ne_contentRange (other fileId : String) {head : Head} (framed : IsFramed head) :
    ∀ range, peek other ≠ Link.objectRequest fileId (some (contentRange head range))
  | none => peek_ne_openRange other fileId head.header.length
  | some range => peek_ne_requestHeader other fileId framed range

theorem goesOn_readFile (framed : ∀ entry ∈ reader.heads.entries, IsFramed entry.2)
    (key : MasterKey) (fileId : String) (range : Option ByteRange) :
    (reader.head key fileId).2.GoesOn (reader.readFile key fileId range).2 := by
  obtain same | ⟨head, fileKey, after, found, read⟩ := readFile_snd reader key fileId range
  · rw [same]
    exact .refl _
  · have long := isFramed_of_head framed (congrArg Prod.fst found)
    rw [found, read]
    exact goesOn_stream after fun other => peek_ne_contentRange other fileId long range

/-- A call that reads a file looks for its head, and then asks for no start of an object. -/
theorem goesOn_perform (framed : ∀ entry ∈ reader.heads.entries, IsFramed entry.2)
    (reads : call.file? = some (key, fileId)) :
    (reader.head key fileId).2.GoesOn (reader.perform call).2 := by
  cases call with
  | decrypt own request =>
    simp only [Call.file?] at reads
    split at reads
    · rename_i name asked named ranged
      obtain ⟨rfl, rfl⟩ := Prod.mk.inj (Option.some.inj reads)
      rw [perform, decrypt_eq_readFile named ranged]
      exact goesOn_readFile framed own name asked
    · cases reads
  | facts own name =>
    obtain ⟨rfl, rfl⟩ := Prod.mk.inj (Option.some.inj reads)
    exact .refl _
  | forget => cases reads

/-- A call that reads no file changes nothing, unless it drops all heads. -/
theorem perform_of_none (reader : Reader) (reads : call.file? = none) :
    call = .forget ∨ (reader.perform call).2 = reader ∧ reader.use call = .unused := by
  cases call with
  | decrypt key request =>
    refine .inr ⟨?_, by simp only [use, reads]⟩
    simp only [perform, decrypt]
    cases named : fileId? request.path with
    | none => rfl
    | some name =>
      cases ranged : requestedRange request with
      | error fault => rfl
      | ok asked => simp [Call.file?, named, ranged] at reads
  | facts key name => cases reads
  | forget => exact .inl rfl

/-- A call drops all heads, or changes nothing, or looks for the head of a file. -/
theorem use_cases (reader : Reader) (call : Call) :
    call = .forget ∨ (reader.perform call).2 = reader ∧ reader.use call = .unused ∨
      ∃ key fileId, call.file? = some (key, fileId) ∧
        Finds reader fileId (reader.use call) (reader.head key fileId).2 := by
  cases reads : call.file? with
  | none => exact (perform_of_none reader reads).imp_right .inl
  | some file =>
    obtain ⟨key, fileId⟩ := file
    have looks : reader.use call = reader.useOf key fileId := by
      cases call with
      | decrypt own request => simp only [use, reads]
      | facts own name => simp only [use, reads]
      | forget => cases reads
    rw [looks]
    exact .inr (.inr ⟨key, fileId, rfl, head_finds reader key fileId⟩)

end Calls

/-! ### The history of a reader -/

/-- The cache of a reader is what the history says, and each head in it has a length that a header
can have. -/
structure Remembers (reader : Reader) (history : List Use) : Prop where
  mirrors : reader.heads.Mirrors history
  capacity : reader.heads.capacity = Recent.defaultCapacity
  framed : ∀ entry ∈ reader.heads.entries, IsFramed entry.2

namespace Remembers

variable {reader after : Reader} {history : List Use} {key : MasterKey} {fileId : String}
  {use : Use} {call : Call}

theorem ofLink (link : Link) : (ofLink link).Remembers [] where
  mirrors := .withCapacity _
  capacity := rfl
  framed := by
    intro entry mem
    cases mem

theorem room (remembers : reader.Remembers history) : 0 < reader.heads.capacity := by
  rw [remembers.capacity]
  decide

theorem finds (remembers : reader.Remembers history) (finds : Finds reader fileId use after) :
    after.Remembers (history ++ [use]) := by
  cases finds with
  | found head held =>
    refine ⟨remembers.mirrors.get remembers.room held, ?_, fun entry mem => ?_⟩
    · exact (reader.heads.capacity_get fileId).trans remembers.capacity
    · exact remembers.framed entry (reader.heads.mem_of_mem_get mem)
  | gained head missing framed =>
    refine ⟨remembers.mirrors.put remembers.room fileId head, remembers.capacity, ?_⟩
    intro entry mem
    rcases reader.heads.mem_of_mem_put mem with rfl | before
    · exact framed
    · exact remembers.framed entry before
  | missed missing => exact ⟨remembers.mirrors.idle rfl nofun, remembers.capacity, remembers.framed⟩

theorem goesOn (remembers : reader.Remembers history) (goesOn : reader.GoesOn after) :
    after.Remembers history := by
  obtain ⟨rest, -, rfl⟩ := goesOn
  exact ⟨remembers.mirrors, remembers.capacity, remembers.framed⟩

/-- One call makes the history longer by what it means for the cache. -/
theorem perform (remembers : reader.Remembers history) (call : Call) :
    (reader.perform call).2.Remembers (history ++ [reader.use call]) := by
  rcases use_cases reader call with rfl | ⟨same, idle⟩ | ⟨key, fileId, reads, finds⟩
  · refine ⟨.clear reader.heads history, remembers.capacity, ?_⟩
    intro entry mem
    cases mem
  · rw [same, idle]
    exact ⟨remembers.mirrors.idle rfl nofun, remembers.capacity, remembers.framed⟩
  · exact (remembers.finds finds).goesOn (goesOn_perform remembers.framed reads)

/-- Calls make the history longer one after the other. -/
theorem performAll (remembers : reader.Remembers history) (calls : List Call) :
    (reader.performAll calls).Remembers (history ++ reader.uses calls) := by
  induction calls generalizing reader history with
  | nil =>
    rw [uses, List.append_nil]
    exact remembers
  | cons call calls ih =>
    have whole := ih (remembers.perform call)
    rw [List.append_assoc] at whole
    exact whole

theorem isForgotten_iff (remembers : reader.Remembers history) (fileId : String) :
    IsForgotten 200 history fileId ↔ reader.heads.lookup? fileId = none := by
  have held : (reader.heads.lookup? fileId).isSome ↔
      ¬ IsForgotten reader.heads.capacity history fileId := remembers.mirrors.isSome_lookup?_iff
  rw [remembers.capacity] at held
  exact (iff_not_comm.1 held).trans Option.not_isSome_iff_eq_none

/-- The start of an object is asked for to find a head that is forgotten. -/
theorem link_head (remembers : reader.Remembers history) (key : MasterKey) (fileId : String) :
    (reader.head key fileId).2.link =
      reader.link.askedAll (if IsForgotten 200 history fileId then [peek fileId] else []) := by
  have finds := head_finds reader key fileId
  have known := remembers.isForgotten_iff fileId
  generalize reader.useOf key fileId = use, (reader.head key fileId).2 = after at finds ⊢
  cases finds with
  | found head held =>
    rw [if_neg (by simp [known, held])]
    rfl
  | gained head missing framed =>
    rw [if_pos (known.2 missing)]
    rfl
  | missed missing =>
    rw [if_pos (known.2 missing)]
    rfl

end Remembers

section Runs

variable {reader : Reader} {history : List Use} {call : Call} {fileId : String}

theorem uses_concat (reader : Reader) (calls : List Call) (call : Call) :
    reader.uses (calls ++ [call]) = reader.uses calls ++ [(reader.performAll calls).use call] := by
  induction calls generalizing reader with
  | nil => rfl
  | cons first calls ih => exact congrArg (reader.use first :: ·) (ih (reader.perform first).2)

/-- What has to be asked for was asked for by a call that reads the file. -/
theorem finds_of_use (asked : reader.use call = .gained fileId ∨ reader.use call = .missed fileId) :
    ∃ key, call.file? = some (key, fileId) ∧
      Finds reader fileId (reader.use call) (reader.head key fileId).2 := by
  rcases use_cases reader call with rfl | ⟨-, idle⟩ | ⟨key, name, reads, finds⟩
  · rcases asked with asked | asked <;> cases asked
  · rw [idle] at asked
    rcases asked with asked | asked <;> cases asked
  · have same : name = fileId := by
      generalize reader.use call = use, (reader.head key name).2 = after at finds asked
      rcases asked with rfl | rfl <;> cases finds <;> rfl
    subst same
    exact ⟨key, reads, finds⟩

/-- What could not be read changes nothing in the cache. -/
theorem heads_of_missed (framed : ∀ entry ∈ reader.heads.entries, IsFramed entry.2)
    (missed : reader.use call = .missed fileId) : (reader.perform call).2.heads = reader.heads := by
  obtain ⟨key, reads, finds⟩ := finds_of_use (.inr missed)
  obtain ⟨rest, -, after⟩ := goesOn_perform framed reads
  rw [missed] at finds
  rw [after]
  generalize (reader.head key fileId).2 = found at finds ⊢
  cases finds
  rfl

theorem missing_of_gained (gained : reader.use call = .gained fileId) :
    reader.heads.lookup? fileId = none := by
  obtain ⟨key, -, finds⟩ := finds_of_use (.inl gained)
  rw [gained] at finds
  generalize (reader.head key fileId).2 = found at finds
  cases finds with
  | gained head missing framed => exact missing

theorem forget_of_cleared (cleared : reader.use call = .cleared) : call = .forget := by
  rcases use_cases reader call with forget | ⟨-, idle⟩ | ⟨key, fileId, -, finds⟩
  · exact forget
  · rw [idle] at cleared
    cases cleared
  · rw [cleared] at finds
    generalize (reader.head key fileId).2 = after at finds
    cases finds

theorem not_mem_uses_cleared {calls : List Call} (kept : .forget ∉ calls) :
    .cleared ∉ reader.uses calls := by
  induction calls generalizing reader with
  | nil => exact List.not_mem_nil
  | cons call calls ih =>
    rw [List.mem_cons, not_or] at kept
    rw [uses, List.mem_cons, not_or]
    exact ⟨fun cleared => kept.1 (forget_of_cleared cleared.symm).symm, ih kept.2⟩

/-- A file is gained once while heads are kept and no more files are used than have room. -/
theorem count_gained_le_one (remembers : reader.Remembers history) {calls : List Call}
    (kept : .forget ∉ calls)
    (few : ((reader.uses calls).filterMap Use.name?).toFinset.card ≤ 200) (fileId : String) :
    (reader.uses calls).count (.gained fileId) ≤ 1 := by
  induction calls using List.reverseRecOn with
  | nil => exact Nat.zero_le 1
  | append_singleton calls call ih =>
    rw [List.mem_append, not_or] at kept
    rw [uses_concat, List.filterMap_append, List.toFinset_append] at few
    have fewer := (Finset.card_le_card Finset.subset_union_left).trans few
    rw [uses_concat, List.count_append, List.count_singleton]
    by_cases gained : (reader.performAll calls).use call = .gained fileId
    · -- what is gained was forgotten, so it was not gained before
      have forgotten := ((remembers.performAll calls).isForgotten_iff fileId).2
        (missing_of_gained gained)
      have first : .gained fileId ∉ reader.uses calls := fun before =>
        not_isForgotten_of_gained before (not_mem_uses_cleared kept.1) fewer forgotten
      rw [List.count_eq_zero_of_not_mem first]
      split <;> omega
    · rw [if_neg (by simpa using gained)]
      exact ih kept.1 fewer

end Runs

/-- Over whatever calls were made, a call that reads a file asks for the start of the object if and
only if the head is forgotten: not read since all were dropped, or two hundred other files were used
since this one was. It asks for no other start of an object, and a call that reads no file asks for
nothing. A head that could not be read changes nothing in the cache. So each file is gained once at
most while no more than two hundred are used. -/
theorem peeks_iff_forgotten (link : Link) (calls : List Call) :
    let reader := (ofLink link).performAll calls
    let history := (ofLink link).uses calls
    (∀ call key fileId, call.file? = some (key, fileId) →
      (∃ rest, (∀ other, peek other ∉ rest) ∧
        (reader.perform call).2.link = reader.link.askedAll
          ((if IsForgotten 200 history fileId then [peek fileId] else []) ++ rest)) ∧
      (peek fileId ∈ reader.link.sentSince (reader.perform call).2.link ↔
        reader.link.reaches (peek fileId) = true ∧ IsForgotten 200 history fileId)) ∧
    (∀ call, call.file? = none → (reader.perform call).2.link = reader.link) ∧
    (∀ call fileId, reader.use call = .missed fileId →
      (reader.perform call).2.heads = reader.heads) ∧
    ∀ more fileId, .forget ∉ more →
      ((reader.uses more).filterMap Use.name?).toFinset.card ≤ 200 →
      (reader.uses more).count (.gained fileId) ≤ 1 := by
  intro reader history
  have remembers : reader.Remembers history := (Remembers.ofLink link).performAll calls
  refine ⟨fun call key fileId reads => ?_, fun call reads => ?_, fun call fileId missed => ?_,
    fun more fileId kept few => count_gained_le_one remembers kept few fileId⟩
  · obtain ⟨rest, others, after⟩ := goesOn_perform remembers.framed reads
    have asks : (reader.perform call).2.link = reader.link.askedAll
        ((if IsForgotten 200 history fileId then [peek fileId] else []) ++ rest) := by
      rw [after, remembers.link_head, Link.askedAll, Link.askedAll, Link.askedAll,
        List.foldl_append]
    refine ⟨⟨rest, others, asks⟩, ?_⟩
    rw [asks]
    by_cases forgotten : IsForgotten 200 history fileId
    · rw [if_pos forgotten, List.singleton_append, Link.mem_sentSince_cons (others fileId)]
      exact (and_iff_left forgotten).symm
    · rw [if_neg forgotten, List.nil_append]
      exact iff_of_false (Link.not_mem_sentSince (others fileId)) fun both => forgotten both.2
  · rcases perform_of_none reader reads with rfl | ⟨same, -⟩
    · rfl
    · rw [same]
  · exact heads_of_missed remembers.framed missed

/-- The start of a file is asked for when it is read first, but not by a call that drops the heads;
without a connection nothing comes into the cache, and a file that is read twice is gained once. -/
theorem peeks_iff_forgotten_of_sample :
    let reader := ofLink (Link.holding sample.object)
    let lost := ofLink (.always .unreachable)
    let call := Call.facts ⟨sample.master.bytes⟩ sampleId
    (call.file? = some (⟨sample.master.bytes⟩, sampleId) ∧
      peek sampleId ∈ reader.link.sentSince (reader.perform call).2.link) ∧
    (Call.forget.file? = none ∧ (reader.perform .forget).2.link = reader.link) ∧
    (lost.use call = .missed sampleId ∧ (lost.perform call).2.heads = lost.heads) ∧
    .forget ∉ [call, call] ∧
      ((reader.uses [call, call]).filterMap Use.name?).toFinset.card ≤ 200 ∧
      (reader.uses [call, call]).count (.gained sampleId) ≤ 1 := by
  intro reader lost call
  obtain ⟨reads, idle, -, once⟩ := peeks_iff_forgotten (Link.holding sample.object) []
  obtain ⟨-, -, misses, -⟩ := peeks_iff_forgotten (.always .unreachable) []
  have reached : (Link.holding sample.object).reaches (peek sampleId) = true := by
    have inside : 0 < sample.object.length :=
      Nat.zero_lt_of_lt (header_lt_length opens_sample.1)
    obtain ⟨response, answered, -⟩ :=
      (Link.serves_holding sample.object found_sampleId).closed [] 0 _ inside (Nat.zero_le _)
    rw [peek, headRange_eq]
    exact Link.reaches_of_response answered
  have missed : lost.use call = .missed sampleId := by decide +kernel
  have kept : .forget ∉ [call, call] := by simp [call]
  have few : ((reader.uses [call, call]).filterMap Use.name?).toFinset.card ≤ 200 :=
    (List.toFinset_card_le _).trans ((List.length_filterMap_le _ _).trans (by simp [uses]))
  exact ⟨⟨rfl, (reads call _ _ rfl).2.2 ⟨reached, by decide⟩⟩, ⟨rfl, idle .forget rfl⟩,
    ⟨missed, misses call sampleId missed⟩, kept, few, once [call, call] sampleId kept few⟩

end Reader

end SealGate

import NoKnowledge.Core.HistoryGate
import NoKnowledge.Core.TransferDigest

/-!
# The records of a transfer

Streaming history writes an offer, the items in order and a completion.  When it
fails in between, what was written is a front part of these.
-/

namespace NoKnowledge.Core

open Prog Sync HistoryGate History

/-- What a record says, apart from the values its sealing draws. -/
structure RecordShape where
  kind : Nat
  plaintext : Bytes
  transferId : String
  seq : Int
  extra : Channel.ExtraFields

def SentRecord.shape (record : SentRecord) : RecordShape where
  kind := record.call.kind
  plaintext := record.call.plaintext
  transferId := record.call.transferId
  seq := record.call.seq
  extra := record.call.extra

namespace TransferStream

variable {suite : Suite} {environment : Environment} {account : Account}

/-- The items of a transfer with their numbers. -/
def numbered (contents : List Bytes) : List (Bytes × Int) :=
  contents.zipIdx.map fun entry => (entry.1, ((entry.2 + 1 : Nat) : Int))

def itemShape (transfer : String) (entry : Bytes × Int) : RecordShape :=
  ⟨Channel.item, entry.1, transfer, entry.2,
    ⟨[], Channel.noFields_canonical, Channel.noFields_additional⟩⟩

def offerShape (transfer : String) (count skipped : Nat) (since until_ budget : Int) :
    RecordShape where
  kind := Channel.offer
  plaintext := canonicalJson (.mkObj [
    ("count", .int count), ("skipped", .int skipped), ("since", .int since),
    ("until", .int until_), ("budget", .int budget)])
  transferId := transfer
  seq := 0
  extra := countField count

def completeShape (transfer : String) (count : Nat) (digest : Bytes) : RecordShape where
  kind := Channel.complete
  plaintext := canonicalJson (.mkObj [
    ("count", .int count), ("chain", .str (Channel.hex digest))])
  transferId := transfer
  seq := 0
  extra := completeFields count (Channel.hex digest)

/-- A record names the device that wrote it, and its nonce has its size. -/
structure Made (account : Account) (record : SentRecord) : Prop where
  sender : record.call.senderDeviceId = account.deviceId
  nonce : record.call.nonce.length = 12

variable (account) in
/-- The records of these shapes, and no others, were written. -/
def Posts (shapes : List RecordShape) (first second : World) : Prop :=
  ∃ new, second.records = first.records ++ new ∧ new.map SentRecord.shape = shapes ∧
    ∀ record ∈ new, Made account record

variable {device : DeviceEntry}

theorem Posts.nothing {first second : World} (records : second.records = first.records) :
    Posts account [] first second :=
  ⟨[], by simp [records], rfl, by simp⟩

theorem Posts.trans {shapes shapes' : List RecordShape} {first second third : World}
    (left : Posts account shapes first second) (right : Posts account shapes' second third) :
    Posts account (shapes ++ shapes') first third := by
  obtain ⟨new, records, rfl, sent⟩ := left
  obtain ⟨new', records', rfl, sent'⟩ := right
  refine ⟨new ++ new', by rw [records', records, List.append_assoc], List.map_append, ?_⟩
  intro record member
  exact (List.mem_append.mp member).elim (sent record) (sent' record)

theorem Posts.before {shapes : List RecordShape} {first second third : World}
    (records : second.records = first.records) (posts : Posts account shapes second third) :
    Posts account shapes first third :=
  (Posts.nothing records).trans posts

theorem Posts.after {shapes : List RecordShape} {first second third : World}
    (posts : Posts account shapes first second) (records : third.records = second.records) :
    Posts account shapes first third := by
  have whole := posts.trans (Posts.nothing records)
  rwa [List.append_nil] at whole

theorem Posts.of_carries {record : SentRecord} {first second : World} {kind : Nat}
    {plaintext : Bytes} {transfer : String} {seq : Int} {extra : Channel.ExtraFields}
    (carries : record.Carries device kind plaintext transfer seq extra)
    (made : Made account record)
    (records : second.records = first.records ++ [record]) :
    Posts account [⟨kind, plaintext, transfer, seq, extra⟩] first second := by
  refine ⟨[record], records, ?_, ?_⟩
  · rw [List.map_singleton, SentRecord.shape, carries.kind, carries.plaintext,
      carries.transfer, carries.seq, carries.extra]
  · intro other member
    rwa [List.mem_singleton.mp member]

/-- Writing a record writes it or nothing. -/
theorem writeRecord_posts {kind : Nat} {plaintext : Bytes} {transfer : String} {seq : Int}
    {extra : Channel.ExtraFields} (world : World) :
    Posts account [] world ((writeRecord suite environment account device kind plaintext
        transfer seq extra).after world) ∨
      Posts account [⟨kind, plaintext, transfer, seq, extra⟩] world
        ((writeRecord suite environment account device kind plaintext transfer seq
          extra).after world) := by
  have stopped : ∀ final : World, (keeping World.records).rel world final →
      Posts account [] world final ∨
        Posts account [⟨kind, plaintext, transfer, seq, extra⟩] world final :=
    fun final same => Or.inl (Posts.nothing same)
  apply reaches_bind ((keeping World.records).refl world) quiet_records.ensureDeviceKeys
    stopped
  intro keys keyed _ passed
  apply reaches_bind passed (quiet_records.fetchDeviceKeys device) stopped
  intro found fetched _ passed
  split
  · exact stopped _ passed
  · apply reaches_bind passed (quiet_records.urandom 32) stopped
    intro ephemeralPrivate drawn _ passed
    apply reaches_bind passed (quiet_records.urandom 12) stopped
    intro nonce second nonceRan passed
    apply reaches_bind passed quiet_records.nowMs stopped
    intro timestamp dated _ passed
    apply reaches_bind passed (keeps_lift _) stopped
    intro blob sealed _ passed
    apply reaches_bind passed (keeps_lift _) stopped
    intro urls addressed _ passed
    apply reaches_bind passed (keeps_lift _) stopped
    intro capability opened _ passed
    apply Or.inr
    refine Posts.after ?_ (quiet_records.putBlobOn urls capability blob _)
    have size : nonce.length = 12 := by
      cases nonceRan
      simp
    refine Posts.before passed (@Posts.of_carries account device _ _ _ _ _ _ _ _ ?_
      ⟨rfl, size⟩ rfl)
    exact ⟨rfl, rfl, rfl, rfl, rfl, rfl⟩

theorem writeRecord_returned {kind : Nat} {plaintext : Bytes} {transfer : String}
    {seq : Int} {extra : Channel.ExtraFields} {world final : World} {result : Unit}
    (returned : (writeRecord suite environment account device kind plaintext transfer seq
      extra).run world = (.ok result, final)) :
    Posts account [⟨kind, plaintext, transfer, seq, extra⟩] world final := by
  obtain ⟨record, carries, sender, nonce, records⟩ := writeRecord_returns returned
  exact Posts.of_carries carries ⟨sender, nonce⟩ records

/-- The records of a transfer, or a front part of them. -/
inductive Streamed (suite : Suite) (transfer : String) (contents : List Bytes) :
    List RecordShape → Prop
  | part {shapes : List RecordShape} {skipped : Nat} {since until_ budget : Int}
      (front : shapes <+: offerShape transfer contents.length skipped since until_ budget ::
        (numbered contents).map (itemShape transfer)) :
      Streamed suite transfer contents shapes
  | whole {skipped : Nat} {since until_ budget : Int} {digest : Bytes}
      (reached : Channel.chainDigest suite transfer (numbered contents) = .ok digest) :
      Streamed suite transfer contents
        (offerShape transfer contents.length skipped since until_ budget ::
          (numbered contents).map (itemShape transfer) ++
          [completeShape transfer contents.length digest])

/-- What a stretch of a program writes: everything it is meant to, with a value
that fits, or a front part of that. -/
inductive Stretch {α : Type} (account : Account) (shapes : List RecordShape)
    (fits : α → Prop) (world : World) : Except Raised α × World → Prop
  | returned {value : α} {final : World} (posts : Posts account shapes world final)
      (holds : fits value) : Stretch account shapes fits world (.ok value, final)
  | stopped {raised : Raised} {final : World} {written : List RecordShape}
      (front : written <+: shapes) (posts : Posts account written world final) :
      Stretch account shapes fits world (.error raised, final)

theorem writeRecord_stretch {kind : Nat} {plaintext : Bytes} {transfer : String}
    {seq : Int} {extra : Channel.ExtraFields} (world : World) :
    Stretch account [⟨kind, plaintext, transfer, seq, extra⟩] (fun _ => True) world
      ((writeRecord suite environment account device kind plaintext transfer seq
        extra).run world) := by
  rcases ran : (writeRecord suite environment account device kind plaintext transfer seq
    extra).run world with ⟨result, final⟩
  cases result with
  | ok value => exact .returned (writeRecord_returned ran) trivial
  | error raised =>
      have written := @writeRecord_posts suite environment account device kind plaintext
        transfer seq extra world
      rw [after_eq ran] at written
      rcases written with nothing | whole
      · exact .stopped List.nil_prefix nothing
      · exact .stopped (List.prefix_refl _) whole

/-- A stretch and what comes after it. -/
theorem Stretch.bind {α β : Type} {shapes shapes' : List RecordShape}
    {fits : α → Prop} {fits' : β → Prop} {first : ClientProg α} {next : α → ClientProg β}
    {world : World} (stretch : Stretch account shapes fits world (first.run world))
    (continued : ∀ value middle, fits value →
      Stretch account shapes' fits' middle ((next value).run middle)) :
    Stretch account (shapes ++ shapes') fits' world ((first >>= next).run world) := by
  rcases ran : first.run world with ⟨result, middle⟩
  rw [ran] at stretch
  cases stretch with
  | returned posts holds =>
      rename_i value
      rw [run_bind_ok ran]
      have rest := continued value middle holds
      generalize (next value).run middle = outcome at rest ⊢
      cases rest with
      | returned posts' holds' => exact .returned (posts.trans posts') holds'
      | stopped front posts' =>
          exact .stopped ((List.prefix_append_right_inj _).mpr front) (posts.trans posts')
  | stopped front posts =>
      rw [run_bind_error ran]
      exact .stopped (front.trans (List.prefix_append _ _)) posts

theorem stretch_lift {α : Type} {outcome : Except Raised α} (world : World) :
    Stretch account [] (fun value => outcome = .ok value) world
      ((Prog.lift outcome : ClientProg α).run world) := by
  cases outcome with
  | ok value => exact .returned (Posts.nothing rfl) rfl
  | error raised => exact .stopped List.nil_prefix (Posts.nothing rfl)

/-- One item: its record, and the digest extended by it. -/
theorem sendItem_stretch {transfer : String} {chain : Bytes} {entry : Bytes × Nat}
    {done : List (Bytes × Int)}
    (reached : Channel.chainDigest suite transfer done = .ok chain) (world : World) :
    Stretch account [itemShape transfer (entry.1, ((entry.2 + 1 : Nat) : Int))]
      (fun digest => Channel.chainDigest suite transfer
        (done ++ [(entry.1, ((entry.2 + 1 : Nat) : Int))]) = .ok digest) world
      ((sendItem suite environment account device transfer chain entry).run world) := by
  have written := @writeRecord_stretch suite environment account device Channel.item
    entry.1 transfer ((entry.2 + 1 : Nat) : Int) {} world
  refine written.bind (fun _ middle _ => ?_)
  have added := @stretch_lift account _
    (Channel.chainAdd suite chain entry.1 ((entry.2 + 1 : Nat) : Int)) middle
  generalize (Prog.lift _ : ClientProg Bytes).run middle = outcome at added ⊢
  cases added with
  | returned posts extended =>
      refine .returned posts ?_
      rw [Channel.chainDigest_append_singleton]
      exact except_bind_eq_ok.mpr ⟨chain, reached, extended⟩
  | stopped front posts => exact .stopped front posts

theorem sendItems_stretch {transfer : String} (entries : List (Bytes × Nat)) :
    ∀ {done : List (Bytes × Int)} {chain : Bytes},
      Channel.chainDigest suite transfer done = .ok chain → ∀ world,
        Stretch account
          ((entries.map fun entry => (entry.1, ((entry.2 + 1 : Nat) : Int))).map
            (itemShape transfer))
          (fun digest => Channel.chainDigest suite transfer
            (done ++ entries.map fun entry => (entry.1, ((entry.2 + 1 : Nat) : Int))) =
              .ok digest) world
          ((entries.foldlM (sendItem suite environment account device transfer)
            chain).run world) := by
  induction entries with
  | nil =>
      intro done chain reached world
      refine .returned (Posts.nothing rfl) ?_
      rwa [List.map_nil, List.append_nil]
  | cons entry entries induction =>
      intro done chain reached world
      rw [List.foldlM_cons]
      refine Stretch.bind (sendItem_stretch reached world) (fun digest middle extended => ?_)
      have rest := induction extended middle
      rwa [List.append_assoc] at rest

/-- A goal about what was written holds wherever a stretch stops, and where its
continuation leads. -/
theorem Stretch.reaches {α β : Type} {shapes : List RecordShape} {fits : α → Prop}
    {first : ClientProg α} {next : α → ClientProg β} {world : World} {goal : World → Prop}
    (stretch : Stretch account shapes fits world (first.run world))
    (stopped : ∀ written final, written <+: shapes → Posts account written world final →
      goal final)
    (continued : ∀ value middle, fits value → Posts account shapes world middle →
      goal ((next value).after middle)) :
    goal ((first >>= next).after world) := by
  rcases ran : first.run world with ⟨result, middle⟩
  rw [ran] at stretch
  cases stretch with
  | returned posts holds =>
      rw [after_bind_ok ran]
      exact continued _ _ holds posts
  | stopped front posts =>
      rw [after_bind_error ran]
      exact stopped _ _ front posts

variable (suite account) in
/-- The records of one transfer, or a front part of them, were written. -/
def Streams (transfer : String) (first second : World) : Prop :=
  ∃ contents shapes, Streamed suite transfer contents shapes ∧
    Posts account shapes first second

/-- What streaming history writes. -/
theorem sendHistory_streams {since until_ budget : Int} {transfer : String}
    (world : World) :
    Streams suite account transfer world ((sendHistory suite environment account device since
      until_ budget transfer).after world) := by
  unfold sendHistory
  rw [after_bind_ok (run_askStore id world)]
  dsimp only [id]
  rcases built : buildItems world.store (account.identity.identityId suite) since until_
    budget with raised | ⟨contents, skipped⟩
  · exact ⟨[], [], @Streamed.part suite transfer [] [] 0 0 0 0 List.nil_prefix,
      Posts.nothing rfl⟩
  rw [after_bind_ok (run_lift_ok _ world)]
  dsimp only
  refine @Stretch.reaches account _ _ _ _ _ _ _ (Streams suite account transfer world)
    (writeRecord_stretch world) ?_ ?_
  · intro written final front posts
    have offered := front.trans (List.prefix_append _ ((numbered contents).map (itemShape transfer)))
    exact ⟨contents, written,
      @Streamed.part suite transfer contents written skipped since until_ budget offered, posts⟩
  intro _ offered _ offerPosts
  refine @Stretch.reaches account _ _ _ _ _ _ _ (Streams suite account transfer world)
    (@sendItems_stretch suite environment account device transfer contents.zipIdx [] _ rfl
      offered) ?_ ?_
  · intro written final front posts
    have sent := (List.prefix_append_right_inj [offerShape transfer contents.length skipped
      since until_ budget]).mpr front
    exact ⟨contents, _, .part sent, offerPosts.trans posts⟩
  intro digest sent reached itemPosts
  have posts := offerPosts.trans itemPosts
  refine @Stretch.reaches account _ _ _ _ _ _ _ (Streams suite account transfer world)
    (writeRecord_stretch sent) ?_ ?_
  · intro written final front completePosts
    rcases List.prefix_cons_iff.mp front with rfl | ⟨rest, rfl, nothing⟩
    · have whole := List.prefix_refl ([offerShape transfer contents.length skipped since
        until_ budget] ++ (numbered contents).map (itemShape transfer))
      have written := posts.trans completePosts
      rw [List.append_nil] at written
      exact ⟨contents, _, .part whole, written⟩
    · cases List.prefix_nil.mp nothing
      exact ⟨contents, _, .whole reached, posts.trans completePosts⟩
  · intro _ final _ completePosts
    exact ⟨contents, _, .whole reached, posts.trans completePosts⟩

/-- Every record of a stream is one of its transfer and carries history. -/
theorem Streamed.shape {transfer : String} {contents : List Bytes}
    {shapes : List RecordShape} (streamed : Streamed suite transfer contents shapes) :
    ∀ shape ∈ shapes, Gated shape.kind ∧ shape.transferId = transfer := by
  have items : ∀ shape ∈ (numbered contents).map (itemShape transfer),
      Gated shape.kind ∧ shape.transferId = transfer := by
    intro shape member
    obtain ⟨entry, -, rfl⟩ := List.mem_map.mp member
    exact ⟨Or.inr (Or.inl rfl), rfl⟩
  intro shape member
  cases streamed with
  | part front =>
      rcases List.mem_cons.mp (front.subset member) with rfl | later
      · exact ⟨Or.inl rfl, rfl⟩
      · exact items shape later
  | whole reached =>
      rcases List.mem_append.mp member with first | last
      · rcases List.mem_cons.mp first with rfl | later
        · exact ⟨Or.inl rfl, rfl⟩
        · exact items shape later
      · rw [List.mem_singleton.mp last]
        exact ⟨Or.inr (Or.inr rfl), rfl⟩

theorem streamed_nil (transfer : String) : Streamed suite transfer [] [] :=
  @Streamed.part suite transfer [] [] 0 0 0 0 List.nil_prefix

/-- The records that carry history. -/
def gatedOf (records : List SentRecord) : List SentRecord :=
  records.filter fun record => Gated record.call.kind

theorem gatedOf_ungated {records : List SentRecord}
    (ungated : ∀ record ∈ records, Ungated record) : gatedOf records = [] := by
  apply List.filter_eq_nil_iff.mpr
  intro record member gated
  exact ungated record member (of_decide_eq_true gated)

variable (suite account) in
/-- The records of history among those that were written are one stream. -/
def WroteStream (first second : World) : Prop :=
  ∃ new, second.records = first.records ++ new ∧
    ∃ transfer contents, Channel.TransferId transfer ∧
      Streamed suite transfer contents ((gatedOf new).map SentRecord.shape) ∧
      ∀ record ∈ gatedOf new, Made account record

theorem WroteStream.of_logging {first second : World}
    (passed : (logging Ungated).rel first second) : WroteStream suite account first second := by
  obtain ⟨new, records, ungated⟩ := passed
  have nothing := gatedOf_ungated ungated
  refine ⟨new, records, b64e (List.replicate 16 0), [], ⟨_, rfl, rfl⟩, ?_, ?_⟩
  · rw [nothing]
    exact streamed_nil _
  · rw [nothing]
    exact fun record member => absurd member List.not_mem_nil

theorem newTransferId_returns {world final : World} {transfer : String}
    (returned : (newTransferId environment).run world = (.ok transfer, final)) :
    Channel.TransferId transfer := by
  obtain ⟨drawn, middle, drawing, rest⟩ := bind_returns returned
  cases rest
  cases drawing
  exact ⟨_, by simp, rfl⟩

theorem approveDevice_wroteStream (deviceId : String) (since budget : Option Int)
    (world : World) :
    WroteStream suite account world
      ((approveDevice suite environment account deviceId since budget).after world) := by
  have stopped : ∀ final, (logging Ungated).rel world final →
      WroteStream suite account world final := fun final => WroteStream.of_logging
  have quiet := permissive_logging.quiet
  apply reaches_bind ((logging Ungated).refl world) (quiet.locateDevice deviceId) stopped
  intro device found foundRan passed
  split
  · exact stopped _ passed
  rename_i device
  apply reaches_bind passed (keeps_askStore _) stopped
  intro pending asked _ passed
  apply reaches_bind passed (keeps_lift _) stopped
  intro granted read _ passed
  apply reaches_bind passed quiet.newTransferId stopped
  intro transfer drawn transferRan passed
  apply reaches_bind passed quiet.nowMs stopped
  intro until_ dated _ passed
  apply reaches_bind passed (quiet.writeRecord
    fun world record carries => logging_kind (by decide) world record carries.kind) stopped
  intro _ approved _ passed
  apply reaches_bind passed (quiet.markApproved (fun _ _ => logging_same rfl) _ _ _ _) stopped
  intro _ marked _ passed
  obtain ⟨old, oldRecords, ungated⟩ := passed
  obtain ⟨contents, shapes, streamed, new, newRecords, shaped, made⟩ :=
    @sendHistory_streams suite environment account device granted until_
      (budget.getD defaultBudgetBytes) transfer marked
  have before := gatedOf_ungated ungated
  have after : gatedOf new = new := by
    apply List.filter_eq_self.mpr
    intro record member
    have inShapes : record.shape ∈ shapes := by
      rw [← shaped]
      exact List.mem_map_of_mem member
    exact decide_eq_true (streamed.shape _ inShapes).1
  have done : ∀ final : World, final.records =
      ((sendHistory suite environment account device granted until_
        (budget.getD defaultBudgetBytes) transfer).after marked).records →
      WroteStream suite account world final := by
    intro final same
    have gated : gatedOf (old ++ new) = new := by
      rw [gatedOf, List.filter_append, ← gatedOf, ← gatedOf, before, after, List.nil_append]
    refine ⟨old ++ new, by rw [same, newRecords, oldRecords, List.append_assoc], transfer,
      contents, newTransferId_returns transferRan, ?_, ?_⟩
    · rw [gated, shaped]
      exact streamed
    · rw [gated]
      exact made
  rcases sent : (sendHistory suite environment account device granted until_
    (budget.getD defaultBudgetBytes) transfer).run marked with ⟨result, final⟩
  rw [after_eq sent] at done
  cases result with
  | error raised =>
      rw [after_bind_error sent]
      exact done final rfl
  | ok counts =>
      rw [after_bind_ok sent]
      exact done _ rfl

/-- What one step writes of transfers. -/
theorem step_wroteStream (step : DeviceStep) (world : World) :
    WroteStream suite account world ((step.program suite environment account).after world) := by
  by_cases approving : ∃ deviceId since budget, step = .approveDevice deviceId since budget
  · obtain ⟨deviceId, since, budget, rfl⟩ := approving
    show WroteStream suite account world ((discard _).after world)
    rw [discard_after]
    exact approveDevice_wroteStream deviceId since budget world
  · obtain ⟨new, records, released⟩ := @step_wrote suite environment account step world
    apply WroteStream.of_logging
    refine ⟨new, records, fun record member gated => ?_⟩
    obtain ⟨since, budget, -, -, same, -⟩ := released record member gated
    exact approving ⟨_, since, budget, same⟩

end TransferStream

end NoKnowledge.Core

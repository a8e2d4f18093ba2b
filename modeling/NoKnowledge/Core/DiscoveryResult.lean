import NoKnowledge.Core.DiscoveryReturns

/-!
# What a discovery adds

A candidate is a URL in normal form, and the result is brought to normal form
once more.  A candidate that changes by this is added as a URL that nobody has
looked at, so the guarantees of a discovery are those of its candidates exactly
as long as none of them does.
-/

namespace NoKnowledge.Core.Discovery

open Url (Tables)

variable {tables : Tables} {allowPrivate : Bool} {transport : Transport}
variable {maxCandidates maxRelays : Int} {probe : Bool} {current : List String}

/-- One URL is brought to normal form and added to those that were seen. -/
def addUrl (seen : List String) (url : String) : List String :=
  match cleanUrl url with
  | none => seen
  | some cleaned => if cleaned ∈ seen then seen else seen ++ [cleaned]

theorem normalizeRelayUrls_eq (urls : List String) :
    normalizeRelayUrls urls = urls.foldl addUrl [] := rfl

theorem mem_foldl_addUrl {seen urls : List String} {found : String} :
    found ∈ urls.foldl addUrl seen ↔
      found ∈ seen ∨ ∃ url ∈ urls, cleanUrl url = some found := by
  induction urls generalizing seen with
  | nil => simp
  | cons url urls induction =>
      rw [List.foldl_cons, induction, addUrl, List.exists_mem_cons_iff]
      cases cleaned : cleanUrl url with
      | none => simp
      | some cleaned =>
          dsimp only
          split
          · rename_i old
            constructor
            · rintro (before | later)
              · exact .inl before
              · exact .inr (.inr later)
            · rintro (before | same | later)
              · exact .inl before
              · cases same
                exact .inl old
              · exact .inr later
          · rw [List.mem_append, List.mem_singleton, or_assoc]
            simp only [Option.some.injEq, eq_comm]

/-- URLs in normal form are kept as they are. -/
theorem foldl_addUrl_of_normal {seen urls : List String}
    (normal : ∀ url ∈ urls, cleanUrl url = some url) (distinct : (seen ++ urls).Nodup) :
    urls.foldl addUrl seen = seen ++ urls := by
  induction urls generalizing seen with
  | nil => rw [List.foldl_nil, List.append_nil]
  | cons url urls induction =>
      have new : url ∉ seen := fun old =>
        (List.nodup_append.mp distinct).2.2 url old url List.mem_cons_self rfl
      have added : addUrl seen url = seen ++ [url] := by
        rw [addUrl, normal url List.mem_cons_self]
        exact if_neg new
      rw [List.foldl_cons, added, induction fun other member =>
        normal other (List.mem_cons_of_mem _ member)]
      · rw [List.append_assoc]
        rfl
      · rwa [List.append_assoc]

/-- URLs that stay the same or are known add some of themselves. -/
theorem foldl_addUrl_sublist {seen urls : List String}
    (stable : ∀ url ∈ urls, ∀ again, cleanUrl url = some again → again = url ∨ again ∈ seen) :
    ∃ added, urls.foldl addUrl seen = seen ++ added ∧ added.Sublist urls := by
  induction urls generalizing seen with
  | nil => exact ⟨[], (List.append_nil _).symm, .slnil⟩
  | cons url urls induction =>
      have rest : ∀ other ∈ urls, ∀ again, cleanUrl other = some again →
          again = other ∨ again ∈ seen := fun other member =>
        stable other (List.mem_cons_of_mem _ member)
      have skipped (same : addUrl seen url = seen) :
          ∃ added, (url :: urls).foldl addUrl seen = seen ++ added ∧
            added.Sublist (url :: urls) := by
        obtain ⟨added, more, part⟩ := induction rest
        exact ⟨added, by rw [List.foldl_cons, same, more], part.cons _⟩
      cases cleaned : cleanUrl url with
      | none => exact skipped (by rw [addUrl, cleaned])
      | some again =>
          by_cases old : again ∈ seen
          · exact skipped (by rw [addUrl, cleaned]; exact if_pos old)
          · have same : again = url :=
              (stable url List.mem_cons_self again cleaned).resolve_right old
            subst same
            have added : addUrl seen again = seen ++ [again] := by
              rw [addUrl, cleaned]
              exact if_neg old
            obtain ⟨more, ran, part⟩ := @induction (seen ++ [again])
              fun other member next nextCleaned =>
                (rest other member next nextCleaned).imp_right (List.mem_append_left _)
            refine ⟨again :: more, ?_, part.cons_cons again⟩
            rw [List.foldl_cons, added, ran, List.append_assoc]
            rfl

/-- Candidates may be probed, and their hosts are new. -/
structure NewHosts (tables : Tables) (allowPrivate : Bool) (current found : List String) :
    Prop where
  discoverable : ∀ url ∈ found, isDiscoverable tables allowPrivate url = .ok true
  distinct : (found.map (keyOf tables)).Nodup
  fresh : ∀ url ∈ found, ∀ relay ∈ current, keyOf tables url ≠ keyOf tables relay

theorem NewHosts.sublist {found part : List String}
    (hosts : NewHosts tables allowPrivate current found) (sublist : part.Sublist found) :
    NewHosts tables allowPrivate current part where
  discoverable := fun url member => hosts.discoverable url (sublist.subset member)
  distinct := hosts.distinct.sublist (sublist.map _)
  fresh := fun url member => hosts.fresh url (sublist.subset member)

/-- A URL becomes a candidate only if it may be probed and its host is new. -/
theorem hear_eq_some {found : List String} {heard : Heard} {candidate : String}
    (became : hear tables allowPrivate transport maxCandidates current found heard =
      .ok (some candidate)) :
    isDiscoverable tables allowPrivate candidate = .ok true ∧
      keyOf tables candidate ∉ (current ++ found).map (keyOf tables) := by
  cases heard with
  | answer relay =>
      obtain ⟨urls, -, same⟩ := except_bind_eq_ok.mp became
      cases same
  | url text =>
      rw [hear, offer] at became
      cases cleaned : cleanUrl text with
      | none =>
          rw [cleaned] at became
          cases became
      | some url =>
          rw [cleaned] at became
          obtain ⟨answer, discoverable, became⟩ := except_bind_eq_ok.mp became
          cases answer with
          | false => cases became
          | true =>
              rw [if_neg (by decide), hostKey_of_discoverable discoverable,
                except_ok_bind] at became
              by_cases old : keyOf tables url ∈ (current ++ found).map (keyOf tables)
              · rw [if_pos old] at became
                cases became
              · rw [if_neg old] at became
                cases became
                exact ⟨discoverable, old⟩

theorem newHosts_firstCandidates :
    NewHosts tables allowPrivate current
      (firstCandidates tables allowPrivate transport maxCandidates current) := by
  have all : NewHosts tables allowPrivate current
      (gatherAll (hear tables allowPrivate transport maxCandidates current) []
        (allHeard transport maxCandidates current)) := by
    apply gatherAll_keeps
    · exact
        { discoverable := fun url member => absurd member List.not_mem_nil
          distinct := List.nodup_nil
          fresh := fun url member => absurd member List.not_mem_nil }
    · intro middle heard candidate hosts became
      obtain ⟨discoverable, new⟩ := hear_eq_some became
      rw [List.map_append, List.mem_append, not_or] at new
      exact
        { discoverable := List.forall_mem_append.mpr
            ⟨hosts.discoverable, List.forall_mem_singleton.mpr discoverable⟩
          distinct := by
            rw [List.map_append, List.map_singleton, ← List.concat_eq_append]
            exact hosts.distinct.concat new.2
          fresh := List.forall_mem_append.mpr ⟨hosts.fresh,
            List.forall_mem_singleton.mpr fun relay member same =>
              new.1 (same ▸ List.mem_map_of_mem member)⟩ }
  exact all.sublist (List.take_sublist _ _)

/-- A candidate is added: it need not be probed, or it answers. -/
def Alive (transport : Transport) (probe : Bool) (candidate : String) : Prop :=
  probe = true → probeRelay transport candidate = .ok true

instance : DecidablePred (Alive transport probe) := fun candidate =>
  inferInstanceAs (Decidable (probe = true → probeRelay transport candidate = .ok true))

theorem yield_examine (found : List String) (candidate : String) :
    yield (examine transport probe) found candidate =
      found ++ [candidate].filter fun url => Alive transport probe url := by
  rw [yield, examine]
  cases probe with
  | false => simp [Alive]
  | true =>
      cases answered : probeRelay transport candidate with
      | error raised => simp [Alive, answered]
      | ok alive =>
          cases alive with
          | false => simp [Alive, answered]
          | true => simp [Alive, answered]

theorem gatherAll_examine (found candidates : List String) :
    gatherAll (examine transport probe) found candidates =
      found ++ candidates.filter fun url => Alive transport probe url := by
  induction candidates generalizing found with
  | nil => exact (List.append_nil found).symm
  | cons candidate candidates induction =>
      rw [gatherAll_cons, induction, yield_examine, List.append_assoc, ← List.filter_append]
      rfl

/-- Relays that are alive are added as long as there is room. -/
theorem gather_examine {found candidates result : List String} {enough : Nat}
    (gathered : gather (examine transport probe) enough found candidates = .ok result) :
    ∃ added, result = found ++ added ∧
      added <+: candidates.filter (fun url => Alive transport probe url) ∧
      result.length ≤ max enough found.length := by
  by_cases full : enough ≤ found.length
  · rw [gather_of_enough full] at gathered
    cases gathered
    exact ⟨[], (List.append_nil _).symm, List.nil_prefix, le_max_right _ _⟩
  · have room := (Nat.not_le.mp full).le
    obtain ⟨-, rfl⟩ := (gather_eq_ok_iff room).mp gathered
    rw [gatherAll_examine, List.take_append]
    refine ⟨_, by rw [List.take_of_length_le room], List.take_prefix _ _, ?_⟩
    rw [← List.take_append]
    exact (List.length_take_le _ _).trans (le_max_left _ _)

/-- The result starts with the current relays and has not too many; every
added relay may be probed and answered its health check, and has a host of its
own. -/
def Additive (tables : Tables) (allowPrivate : Bool) (transport : Transport)
    (maxRelays : Int) (probe : Bool) (current result : List String) : Prop :=
  ∃ added, result = current ++ added ∧
    (result.length : Int) ≤ max maxRelays current.length ∧
    (∀ url ∈ added, isDiscoverable tables allowPrivate url = .ok true ∧
      (probe = true → probeRelay transport url = .ok true)) ∧
    (added.map (hostKey tables)).Nodup ∧
    ∀ url ∈ added, ∀ relay ∈ current, hostKey tables url ≠ hostKey tables relay

/-- A URL in normal form. -/
def Normal (url : String) : Prop := normalizeRelayUrls [url] = [url]

theorem cleanUrl_of_normal {url : String} (normal : Normal url) : cleanUrl url = some url := by
  rw [Normal, normalizeRelayUrls_singleton] at normal
  cases cleaned : cleanUrl url with
  | none =>
      rw [cleaned] at normal
      cases normal
  | some found =>
      rw [cleaned] at normal
      exact congrArg some (List.cons.inj normal).1

theorem normalizeRelayUrls_of_normal (distinct : current.Nodup)
    (normal : ∀ relay ∈ current, Normal relay) : normalizeRelayUrls current = current :=
  foldl_addUrl_of_normal (fun url member => cleanUrl_of_normal (normal url member)) distinct

/-- A discovery that returns could read the hosts of all relays. -/
theorem wellFormed_of_returns {result : List String}
    (returned : discoverRelays tables allowPrivate transport maxCandidates maxRelays probe
      current = .ok result) : WellFormed tables (normalizeRelayUrls current) := by
  obtain ⟨seen, read, -⟩ := except_bind_eq_ok.mp returned
  generalize normalizeRelayUrls current = relays at read
  induction relays generalizing seen with
  | nil => exact fun relay member => absurd member List.not_mem_nil
  | cons relay relays induction =>
      rw [List.mapM_cons] at read
      obtain ⟨key, here, read⟩ := except_bind_eq_ok.mp read
      obtain ⟨keys, later, -⟩ := except_bind_eq_ok.mp read
      exact List.forall_mem_cons.mpr ⟨⟨key, here⟩, induction keys later⟩

/-- The two loops of a discovery that returns. -/
theorem gathered_of_returns {result : List String} (normal : normalizeRelayUrls current = current)
    (returned : discoverRelays tables allowPrivate transport maxCandidates maxRelays probe
      current = .ok result) :
    ∃ alive, gather (hear tables allowPrivate transport maxCandidates current)
          (enoughCandidates maxCandidates) [] (allHeard transport maxCandidates current) =
        .ok (firstCandidates tables allowPrivate transport maxCandidates current) ∧
      gather (examine transport probe) maxRelays.toNat current
          (firstCandidates tables allowPrivate transport maxCandidates current) = .ok alive ∧
      result = normalizeRelayUrls alive := by
  rw [discoverRelays_eq (wellFormed_of_returns returned), normal] at returned
  obtain ⟨urls, gathered, returned⟩ := except_bind_eq_ok.mp returned
  obtain ⟨alive, added, same⟩ := except_bind_eq_ok.mp returned
  cases same
  have urlsEq := firstCandidates_of_gather gathered
  subst urlsEq
  exact ⟨alive, gathered, added, rfl⟩

/-- Candidates that do not change keep the promise. -/
theorem additive_of_stable {result : List String} (distinct : current.Nodup)
    (normal : ∀ relay ∈ current, Normal relay)
    (stable : ∀ candidate ∈ firstCandidates tables allowPrivate transport maxCandidates current,
      ∀ again, cleanUrl candidate = some again → again = candidate ∨ again ∈ current)
    (returned : discoverRelays tables allowPrivate transport maxCandidates maxRelays probe
      current = .ok result) :
    Additive tables allowPrivate transport maxRelays probe current result := by
  have same := normalizeRelayUrls_of_normal distinct normal
  have wellFormed := wellFormed_of_returns returned
  obtain ⟨alive, -, examined, rfl⟩ := gathered_of_returns same returned
  obtain ⟨more, rfl, part, capped⟩ := gather_examine examined
  have subset : more.Sublist
      (firstCandidates tables allowPrivate transport maxCandidates current) :=
    part.sublist.trans List.filter_sublist
  rw [normalizeRelayUrls_eq, List.foldl_append, ← normalizeRelayUrls_eq, same]
  obtain ⟨added, ran, kept⟩ := foldl_addUrl_sublist fun url member =>
    stable url (subset.subset member)
  have hosts : NewHosts tables allowPrivate current added :=
    newHosts_firstCandidates.sublist (kept.trans subset)
  have keys : ∀ url ∈ added, hostKey tables url = .ok (keyOf tables url) := fun url member =>
    hostKey_of_discoverable (hosts.discoverable url member)
  rw [ran]
  refine ⟨added, rfl, ?_, ?_, ?_, ?_⟩
  · have shorter := kept.length_le
    rw [List.length_append] at capped ⊢
    omega
  · intro url member
    have isAlive := List.of_mem_filter (part.subset (kept.subset member))
    exact ⟨hosts.discoverable url member, of_decide_eq_true isAlive⟩
  · have wrapped : ((added.map (keyOf tables)).map (@Except.ok Raised HostKey)).Nodup :=
      hosts.distinct.map fun _ _ equal => Except.ok.inj equal
    rw [List.map_map] at wrapped
    rwa [List.map_congr_left keys]
  · intro url member relay old equal
    rw [same] at wellFormed
    obtain ⟨key, read⟩ := wellFormed relay old
    apply hosts.fresh url member relay old
    rw [keys url member] at equal
    rw [keyOf, keyOf, ← equal, keys url member]

/-- Nothing but one URL answers a health check. -/
def healthyOnly (transport : Transport) (healthy : String) : Transport := fun url =>
  if url = healthy ++ healthPath then .ok { json := .ok (.obj [("status", .str "ok")]) }
  else if healthPath.toList <:+ url.toList then .error { class_ := .client }
  else transport url

/-- A text of the same length is not a suffix unless it is the same. -/
theorem not_suffix_append {path other before : List Char} (sameLength : path.length = other.length)
    (differ : path ≠ other) : ¬ path <:+ before ++ other := by
  intro suffix
  obtain ⟨start, same⟩ := suffix
  exact differ (List.append_inj_right' same sameLength)

theorem not_healthPath (relay : String) :
    ¬ healthPath.toList <:+ (relay ++ relaysPath).toList := by
  rw [String.toList_append]
  exact not_suffix_append (by decide +kernel) (by decide)

/-- No address is asked for twice. -/
theorem requests_nodup (distinct : current.Nodup) :
    (current.map (· ++ relaysPath) ++
      (firstCandidates tables allowPrivate transport maxCandidates current).map
        (· ++ healthPath)).Nodup := by
  have injective (path : String) : Function.Injective (· ++ path) := fun _ _ same =>
    (String.append_left_inj path).mp same
  rw [List.nodup_append]
  refine ⟨distinct.map (injective _),
    (newHosts_firstCandidates.distinct.of_map _).map (injective _), ?_⟩
  intro asked relays probed candidates same
  obtain ⟨relay, -, rfl⟩ := List.mem_map.mp relays
  obtain ⟨candidate, -, rfl⟩ := List.mem_map.mp candidates
  apply not_healthPath relay
  rw [same, String.toList_append]
  exact List.suffix_append _ _

theorem healthyOnly_relaysPath (healthy relay : String) :
    healthyOnly transport healthy (relay ++ relaysPath) = transport (relay ++ relaysPath) := by
  have other : relay ++ relaysPath ≠ healthy ++ healthPath := by
    intro same
    apply not_healthPath relay
    rw [same, String.toList_append]
    exact List.suffix_append _ _
  rw [healthyOnly, if_neg other, if_neg (not_healthPath relay)]

theorem probeRelay_healthyOnly {healthy url : String} :
    probeRelay (healthyOnly transport healthy) url = .ok (url = healthy) := by
  rw [probeRelay, healthyOnly]
  by_cases same : url = healthy
  · subst same
    rw [if_pos rfl, decide_eq_true rfl]
    rfl
  · have other : url ++ healthPath ≠ healthy ++ healthPath := fun equal =>
      same ((String.append_left_inj _).mp equal)
    have suffix : healthPath.toList <:+ (url ++ healthPath).toList := by
      rw [String.toList_append]
      exact List.suffix_append _ _
    rw [if_neg other, if_pos suffix, decide_eq_false same]
    rfl

theorem fetch_healthyOnly (healthy : String) :
    fetchKnownRelays (healthyOnly transport healthy) = fetchKnownRelays transport := by
  funext relay limit
  rw [fetchKnownRelays, fetchKnownRelays, healthyOnly_relaysPath]

/-- What is heard depends only on what the relays advertise. -/
theorem hear_congr {other : Transport}
    (same : fetchKnownRelays other = fetchKnownRelays transport) :
    hear tables allowPrivate other maxCandidates current =
        hear tables allowPrivate transport maxCandidates current ∧
      allHeard other maxCandidates current = allHeard transport maxCandidates current := by
  constructor
  · funext found heard
    cases heard with
    | answer relay => rw [hear, hear, same]
    | url text => rw [hear, hear]
  · have heards : heardFrom other maxCandidates = heardFrom transport maxCandidates := by
      funext relay
      rw [heardFrom, heardFrom, advertisedBy, advertisedBy, same]
    rw [allHeard, allHeard, heards]

/-- When only a candidate that changes answers, what it changes to is added. -/
theorem changing_candidate_is_added {candidate again : String} (distinct : current.Nodup)
    (normal : ∀ relay ∈ current, Normal relay) (wellFormed : WellFormed tables current)
    (fine : Reached (hear tables allowPrivate transport maxCandidates current)
      (enoughCandidates maxCandidates) [] (allHeard transport maxCandidates current)
      fun _ heard => heard.Fine tables transport)
    (member : candidate ∈ firstCandidates tables allowPrivate transport maxCandidates current)
    (changes : cleanUrl candidate = some again) :
    ∃ maxRelays result, discoverRelays tables allowPrivate (healthyOnly transport candidate)
        maxCandidates maxRelays true current = .ok result ∧ again ∈ result := by
  have same := normalizeRelayUrls_of_normal distinct normal
  obtain ⟨hearSame, heardSame⟩ := @hear_congr tables allowPrivate transport maxCandidates
    current _ (fetch_healthyOnly candidate)
  let found := firstCandidates tables allowPrivate transport maxCandidates current
  let alive := gatherAll (examine (healthyOnly transport candidate) true) current found
  have gathered : gather (hear tables allowPrivate transport maxCandidates current)
      (enoughCandidates maxCandidates) [] (allHeard transport maxCandidates current) =
        .ok found :=
    (gather_eq_ok_iff (Nat.zero_le _)).mpr
      ⟨(reached_congr fun _ _ => hear_returns_iff).mpr fine, rfl⟩
  have examined : gather (examine (healthyOnly transport candidate) true) alive.length
      current found = .ok alive := by
    refine (gather_eq_ok_iff (prefix_gatherAll _ _).length_le).mpr ⟨?_, ?_⟩
    · intro before other after _ _
      rw [examine, if_neg (by decide), probeRelay_healthyOnly]
      exact ⟨_, rfl⟩
    · exact List.take_length.symm
  have wellFormedNormal : WellFormed tables (normalizeRelayUrls current) := by rwa [same]
  refine ⟨alive.length, normalizeRelayUrls alive, ?_, ?_⟩
  · rw [discoverRelays_eq wellFormedNormal, same, hearSame, heardSame, gathered,
      except_ok_bind, Int.toNat_natCast, examined]
    rfl
  · refine mem_foldl_addUrl.mpr (.inr ⟨candidate, ?_, changes⟩)
    have answers : Alive (healthyOnly transport candidate) true candidate := fun _ => by
      rw [probeRelay_healthyOnly, decide_eq_true rfl]
    show candidate ∈ gatherAll _ current found
    rw [gatherAll_examine]
    exact List.mem_append_right _ (List.mem_filter.mpr ⟨member, decide_eq_true answers⟩)

/-- Whatever the health checks are and however many relays may be added, a
discovery that returns keeps its promise, if and only if every candidate that
it can come to stays as it is when it is brought to normal form again, or
becomes a current relay. -/
theorem discovery_additive_iff (distinct : current.Nodup)
    (normal : ∀ relay ∈ current, Normal relay) :
    (∀ other : Transport,
        (∀ relay, other (relay ++ relaysPath) = transport (relay ++ relaysPath)) →
        ∀ maxRelays probe result,
          discoverRelays tables allowPrivate other maxCandidates maxRelays probe current =
            .ok result →
          Additive tables allowPrivate other maxRelays probe current result) ↔
      (WellFormed tables current →
        Reached (hear tables allowPrivate transport maxCandidates current)
          (enoughCandidates maxCandidates) [] (allHeard transport maxCandidates current)
          (fun _ heard => heard.Fine tables transport) →
        ∀ candidate ∈ firstCandidates tables allowPrivate transport maxCandidates current,
          ∀ again, cleanUrl candidate = some again →
            again = candidate ∨ again ∈ current) := by
  have same := normalizeRelayUrls_of_normal distinct normal
  constructor
  · intro promise wellFormed fine candidate member again changes
    by_contra unstable
    obtain ⟨maxRelays, result, returned, added⟩ :=
      changing_candidate_is_added distinct normal wellFormed fine member changes
    obtain ⟨more, rfl, -, answered, -⟩ := promise (healthyOnly transport candidate)
      (healthyOnly_relaysPath candidate) maxRelays true result returned
    rcases List.mem_append.mp added with old | new
    · exact unstable (.inr old)
    · have alive := (answered again new).2 rfl
      rw [probeRelay_healthyOnly] at alive
      exact unstable (.inl (of_decide_eq_true (Except.ok.inj alive)))
  · intro stable other lists maxRelays probe result returned
    have fetches : fetchKnownRelays other = fetchKnownRelays transport := by
      funext relay limit
      rw [fetchKnownRelays, fetchKnownRelays, lists]
    obtain ⟨hearSame, heardSame⟩ := @hear_congr tables allowPrivate transport maxCandidates
      current _ fetches
    obtain ⟨-, gathered, -⟩ := gathered_of_returns same returned
    have wellFormed := wellFormed_of_returns returned
    rw [same] at wellFormed
    have candidatesSame : firstCandidates tables allowPrivate other maxCandidates current =
        firstCandidates tables allowPrivate transport maxCandidates current := by
      rw [firstCandidates, firstCandidates, hearSame, heardSame]
    rw [hearSame, heardSame] at gathered
    have fine := (reached_congr fun _ _ => hear_returns_iff).mp
      ((gather_eq_ok_iff (Nat.zero_le _)).mp gathered).1
    apply additive_of_stable distinct normal _ returned
    rw [candidatesSame]
    exact stable wellFormed fine

theorem seed_normal : ∀ relay ∈ [seed], Normal relay :=
  List.forall_mem_singleton.mpr (show normalizeRelayUrls [seed] = [seed] from rfl)

/-- A relay without a blank in its URL is added as it is. -/
theorem discovery_additive_iff_seed :
    Additive asciiTables false liveRelay 8 true [seed] [seed, "https://good.example"] := by
  have returned : discoverRelays asciiTables false liveRelay 50 8 true [seed] =
      .ok [seed, "https://good.example"] := rfl
  have first : firstCandidates asciiTables false liveRelay 50 [seed] =
      ["https://good.example"] := rfl
  have kept : cleanUrl "https://good.example" = some "https://good.example" := rfl
  refine (discovery_additive_iff (List.nodup_singleton _) seed_normal).mpr ?_ liveRelay
    (fun _ => rfl) 8 true _ returned
  intro _ _ candidate member again changes
  rw [first, List.mem_singleton] at member
  rw [member, kept] at changes
  exact .inl (member ▸ (Option.some.inj changes).symm)

/-- A relay that advertises an internal address, a blank and a slash. -/
def internalRelay : Transport :=
  stub [(seedPath, .obj [("relays", .arr [.str "http://127.0.0.1 /"])])]

/-- The blank makes a host name of the address, and goes away in the result. -/
theorem internal_address_is_added :
    ∃ result, discoverRelays asciiTables false internalRelay 50 8 false [seed] = .ok result ∧
      ¬ Additive asciiTables false internalRelay 8 false [seed] result := by
  refine ⟨[seed, "http://127.0.0.1"], rfl, ?_⟩
  rintro ⟨added, same, -, discoverable, -⟩
  have more : added = ["http://127.0.0.1"] := (List.cons.inj same).2.symm
  have refused : isDiscoverable asciiTables false "http://127.0.0.1" = .ok false := rfl
  have allowed := (discoverable "http://127.0.0.1" (more ▸ List.mem_singleton.mpr rfl)).1
  rw [refused] at allowed
  cases allowed

end NoKnowledge.Core.Discovery

import Mathlib.Data.List.DropRight
import NoKnowledge.Core.DiscoveryReturns
import NoKnowledge.Foundation.IpAddress

/-!
# Whom a discovery asks

A candidate on an internal host is not to be asked whether it is alive.  The
filter reads a host as the address library does, and the connection reads it as
the resolver does, which accepts more spellings of the same addresses.
-/

namespace NoKnowledge.Core.Discovery

open Url (Tables)
open Ip (lowered ipv4 ipv6 inetAton groups)

inductive Sent where
  | ask (relay : String)
  | probe (candidate : String)
deriving DecidableEq

section Requests

variable (tables : Tables) (allowPrivate : Bool) (transport : Transport)
variable (maxCandidates maxRelays : Int) (probe : Bool)

/-- The loop over the relays that are asked, and the requests it sends. -/
def gatherSent (candidates : Candidates) :
    List String → List Sent × Except Raised Candidates
  | [] => ([], .ok candidates)
  | relay :: relays =>
      match (do
        let advertised ← fetchKnownRelays transport relay maxCandidates
        considerAdvertised tables allowPrivate maxCandidates candidates advertised) with
      | .error raised => ([.ask relay], .error raised)
      | .ok candidates =>
          if maxCandidates ≤ candidates.urls.length then ([.ask relay], .ok candidates)
          else
            let (sent, outcome) := gatherSent candidates relays
            (.ask relay :: sent, outcome)

/-- The loop over the candidates, and the requests it sends. -/
def addAliveSent (result : List String) :
    List String → List Sent × Except Raised (List String)
  | [] => ([], .ok result)
  | candidate :: candidates =>
      if maxRelays ≤ result.length then ([], .ok result)
      else if !probe then addAliveSent (result ++ [candidate]) candidates
      else
        match probeRelay transport candidate with
        | .error raised => ([.probe candidate], .error raised)
        | .ok alive =>
            let (sent, outcome) :=
              addAliveSent (if alive then result ++ [candidate] else result) candidates
            (.probe candidate :: sent, outcome)

/-- A discovery and the requests it sends. -/
def discoverSent (current : List String) : List Sent × Except Raised (List String) :=
  let known := normalizeRelayUrls current
  match known.mapM (hostKey tables) with
  | .error raised => ([], .error raised)
  | .ok seen =>
      match gatherSent tables allowPrivate transport maxCandidates { seen } known with
      | (asked, .error raised) => (asked, .error raised)
      | (asked, .ok candidates) =>
          let (sent, outcome) := addAliveSent transport maxRelays probe known candidates.urls
          (asked ++ sent, outcome.map normalizeRelayUrls)

end Requests

section Erasure

variable {tables : Tables} {allowPrivate : Bool} {transport : Transport}
variable {maxCandidates maxRelays : Int} {probe : Bool}

theorem gatherSent_outcome (candidates : Candidates) (relays : List String) :
    (gatherSent tables allowPrivate transport maxCandidates candidates relays).2 =
      gatherCandidates tables allowPrivate transport maxCandidates candidates relays := by
  induction relays generalizing candidates with
  | nil => rfl
  | cons relay relays induction =>
      rw [gatherSent, gatherCandidates]
      cases fetchKnownRelays transport relay maxCandidates with
      | error raised => rfl
      | ok advertised =>
          rw [except_ok_bind, except_ok_bind]
          cases considerAdvertised tables allowPrivate maxCandidates candidates advertised with
          | error raised => rfl
          | ok found =>
              rw [except_ok_bind]
              dsimp only
              split
              · rfl
              · exact induction found

theorem addAliveSent_outcome (result candidates : List String) :
    (addAliveSent transport maxRelays probe result candidates).2 =
      addAlive transport maxRelays probe result candidates := by
  induction candidates generalizing result with
  | nil => rfl
  | cons candidate candidates induction =>
      rw [addAliveSent, addAlive]
      split
      · rfl
      · split
        · exact induction _
        · cases probeRelay transport candidate with
          | error raised => rfl
          | ok alive =>
              rw [except_ok_bind]
              cases alive with
              | true => exact induction _
              | false => exact induction _

/-- Apart from the requests it is the discovery. -/
theorem discoverSent_outcome (current : List String) :
    (discoverSent tables allowPrivate transport maxCandidates maxRelays probe current).2 =
      discoverRelays tables allowPrivate transport maxCandidates maxRelays probe current := by
  rw [discoverSent, discoverRelays]
  dsimp only
  cases (normalizeRelayUrls current).mapM (hostKey tables) with
  | error raised => rfl
  | ok seen =>
      rw [except_ok_bind, ← gatherSent_outcome]
      dsimp only
      cases gatherSent tables allowPrivate transport maxCandidates { seen }
          (normalizeRelayUrls current) with
      | mk asked outcome =>
          cases outcome with
          | error raised => rfl
          | ok candidates =>
              rw [except_ok_bind, ← addAliveSent_outcome]
              dsimp only
              cases (addAliveSent transport maxRelays probe (normalizeRelayUrls current)
                  candidates.urls).2 with
              | error raised => rfl
              | ok result => rfl

end Erasure

section Origin

variable {tables : Tables} {allowPrivate : Bool} {transport : Transport}
variable {maxCandidates maxRelays : Int} {probe : Bool}

variable (tables allowPrivate transport maxCandidates) in
/-- A text that a relay advertises became this candidate, which may be probed. -/
def Offered (relays : List String) (candidate : String) : Prop :=
  isDiscoverable tables allowPrivate candidate = .ok true ∧
    ∃ relay ∈ relays, ∃ text ∈ advertisedBy transport maxCandidates relay,
      cleanUrl text = some candidate

theorem Offered.mono {relays more : List String} {candidate : String}
    (offered : Offered tables allowPrivate transport maxCandidates relays candidate)
    (within : relays ⊆ more) :
    Offered tables allowPrivate transport maxCandidates more candidate := by
  obtain ⟨discoverable, relay, member, text, advertised, cleaned⟩ := offered
  exact ⟨discoverable, relay, within member, text, advertised, cleaned⟩

/-- What the loop over advertised texts adds is made of one of them. -/
theorem considerAdvertised_origin {candidates found : Candidates} {texts : List String}
    (considered : considerAdvertised tables allowPrivate maxCandidates candidates texts =
      .ok found) :
    ∀ candidate ∈ found.urls, candidate ∈ candidates.urls ∨
      isDiscoverable tables allowPrivate candidate = .ok true ∧
        ∃ text ∈ texts, cleanUrl text = some candidate := by
  induction texts generalizing candidates with
  | nil =>
      cases considered
      exact fun candidate member => .inl member
  | cons text texts induction =>
      have further : ∀ {candidates : Candidates},
          considerAdvertised tables allowPrivate maxCandidates candidates texts = .ok found →
          ∀ candidate ∈ found.urls, candidate ∈ candidates.urls ∨
            isDiscoverable tables allowPrivate candidate = .ok true ∧
              ∃ other ∈ text :: texts, cleanUrl other = some candidate := by
        intro candidates considered candidate member
        refine (induction considered candidate member).imp_right ?_
        intro ⟨discoverable, other, otherMember, cleaned⟩
        exact ⟨discoverable, other, List.mem_cons_of_mem _ otherMember, cleaned⟩
      rw [considerAdvertised, normalizeRelayUrls_singleton] at considered
      cases cleaned : cleanUrl text with
      | none =>
          rw [cleaned] at considered
          exact further considered
      | some url =>
          rw [cleaned] at considered
          obtain ⟨allowed, discoverable, considered⟩ := except_bind_eq_ok.mp considered
          cases allowed with
          | false => exact further considered
          | true =>
              obtain ⟨key, -, considered⟩ := except_bind_eq_ok.mp considered
              have added : ∀ candidate ∈ candidates.urls ++ [url], candidate ∈ candidates.urls ∨
                  isDiscoverable tables allowPrivate candidate = .ok true ∧
                    ∃ other ∈ text :: texts, cleanUrl other = some candidate := by
                intro candidate member
                rcases List.mem_append.mp member with old | new
                · exact .inl old
                · rw [List.mem_singleton.mp new]
                  exact .inr ⟨discoverable, text, List.mem_cons_self, cleaned⟩
              split at considered
              · exact further considered
              · dsimp only at considered
                split at considered
                · cases considered
                  exact added
                · intro candidate member
                  rcases further considered candidate member with old | new
                  · exact added candidate old
                  · exact .inr new

theorem gatherSent_origin {candidates found : Candidates} {relays : List String}
    {asked : List Sent}
    (gathered : gatherSent tables allowPrivate transport maxCandidates candidates relays =
      (asked, .ok found)) :
    ∀ candidate ∈ found.urls, candidate ∈ candidates.urls ∨
      Offered tables allowPrivate transport maxCandidates relays candidate := by
  have outcome := congrArg Prod.snd gathered
  rw [gatherSent_outcome] at outcome
  clear gathered
  induction relays generalizing candidates with
  | nil =>
      cases outcome
      exact fun candidate member => .inl member
  | cons relay relays induction =>
      rw [gatherCandidates] at outcome
      obtain ⟨texts, fetched, outcome⟩ := except_bind_eq_ok.mp outcome
      obtain ⟨next, considered, outcome⟩ := except_bind_eq_ok.mp outcome
      have advertised : advertisedBy transport maxCandidates relay = texts := by
        rw [advertisedBy, fetched]
      have here : ∀ candidate ∈ next.urls, candidate ∈ candidates.urls ∨
          Offered tables allowPrivate transport maxCandidates (relay :: relays) candidate := by
        intro candidate member
        refine (considerAdvertised_origin considered candidate member).imp_right ?_
        rintro ⟨discoverable, text, textMember, cleaned⟩
        exact ⟨discoverable, relay, List.mem_cons_self, text, advertised ▸ textMember, cleaned⟩
      split at outcome
      · cases outcome
        exact here
      · intro candidate member
        rcases induction outcome candidate member with old | new
        · exact here candidate old
        · exact .inr (new.mono (List.subset_cons_self relay relays))

theorem asked_of_gatherSent {candidates : Candidates} {relays : List String} {sent : Sent}
    (member : sent ∈
      (gatherSent tables allowPrivate transport maxCandidates candidates relays).1) :
    ∃ relay, sent = .ask relay := by
  induction relays generalizing candidates with
  | nil => exact absurd member List.not_mem_nil
  | cons relay relays induction =>
      rw [gatherSent] at member
      split at member
      · exact ⟨relay, List.mem_singleton.mp member⟩
      · split at member
        · exact ⟨relay, List.mem_singleton.mp member⟩
        · rcases List.mem_cons.mp member with here | later
          · exact ⟨relay, here⟩
          · exact induction later

/-- Only candidates are probed. -/
theorem probed_of_addAliveSent {result candidates : List String} {candidate : String}
    (member : .probe candidate ∈ (addAliveSent transport maxRelays probe result candidates).1) :
    candidate ∈ candidates := by
  induction candidates generalizing result with
  | nil => exact absurd member List.not_mem_nil
  | cons first candidates induction =>
      rw [addAliveSent] at member
      split at member
      · exact absurd member List.not_mem_nil
      · split at member
        · exact List.mem_cons_of_mem _ (induction member)
        · split at member
          · rw [Sent.probe.inj (List.mem_singleton.mp member)]
            exact List.mem_cons_self
          · rcases List.mem_cons.mp member with here | later
            · rw [Sent.probe.inj here]
              exact List.mem_cons_self
            · exact List.mem_cons_of_mem _ (induction later)

/-- What is probed was advertised by a relay that is known, and may be probed. -/
theorem offered_of_probed {current : List String} {candidate : String}
    (member : .probe candidate ∈ (discoverSent tables allowPrivate transport maxCandidates
      maxRelays probe current).1) :
    Offered tables allowPrivate transport maxCandidates (normalizeRelayUrls current)
      candidate := by
  have notAsked : ∀ {candidates : Candidates} {relays : List String},
      .probe candidate ∉ (gatherSent tables allowPrivate transport maxCandidates candidates
        relays).1 := by
    intro candidates relays asked
    obtain ⟨relay, same⟩ := asked_of_gatherSent asked
    cases same
  rw [discoverSent] at member
  dsimp only at member
  split at member
  · exact absurd member List.not_mem_nil
  · rename_i seen keyed
    split at member
    · rename_i asked raised gathered
      have sent : (gatherSent tables allowPrivate transport maxCandidates { seen }
          (normalizeRelayUrls current)).1 = asked := congrArg Prod.fst gathered
      exact absurd (sent ▸ member) notAsked
    · rename_i asked candidates gathered
      rcases List.mem_append.mp member with early | late
      · have sent : (gatherSent tables allowPrivate transport maxCandidates { seen }
            (normalizeRelayUrls current)).1 = asked := congrArg Prod.fst gathered
        exact absurd (sent ▸ early) notAsked
      · rcases gatherSent_origin gathered candidate (probed_of_addAliveSent late) with old | new
        · exact absurd old List.not_mem_nil
        · exact new

/-- The one relay that is asked advertises one text. -/
def advertising (relay text : String) : Transport :=
  stub [(relay ++ relaysPath, .obj [("relays", .arr [.str text])])]

/-- A URL that may be probed is, once a relay on another host advertises it. -/
theorem probed_of_discoverable {relay text candidate : String} {key : HostKey}
    (normal : normalizeRelayUrls [relay] = [relay]) (keyed : hostKey tables relay = .ok key)
    (cleaned : cleanUrl text = some candidate)
    (discoverable : isDiscoverable tables allowPrivate candidate = .ok true)
    (other : keyOf tables candidate ≠ key) :
    .probe candidate ∈
      (discoverSent tables allowPrivate (advertising relay text) 50 8 true [relay]).1 := by
  have fetched : fetchKnownRelays (advertising relay text) relay 50 = .ok [text] := by
    rw [fetchKnownRelays, advertising, stub, List.lookup_cons_self]
    rfl
  have new : keyOf tables candidate ∉ [key] := fun member =>
    other (List.mem_singleton.mp member)
  have considered : considerAdvertised tables allowPrivate 50 { seen := [key] } [text] =
      .ok { seen := [key, keyOf tables candidate], urls := [candidate] } := by
    rw [considerAdvertised, normalizeRelayUrls_singleton, cleaned]
    dsimp only [Option.toList]
    rw [discoverable, except_ok_bind, Bool.not_true, if_neg Bool.false_ne_true,
      hostKey_of_discoverable discoverable, except_ok_bind, if_neg new]
    rfl
  have gathered : gatherSent tables allowPrivate (advertising relay text) 50 { seen := [key] }
      [relay] =
        ([.ask relay],
          .ok { seen := [key, keyOf tables candidate], urls := [candidate] }) := by
    rw [gatherSent, fetched, except_ok_bind, considered]
    rfl
  have keys : [relay].mapM (hostKey tables) = .ok [key] := by
    rw [List.mapM_cons, keyed, except_ok_bind, List.mapM_nil]
    rfl
  rw [discoverSent, normal]
  dsimp only
  rw [keys]
  dsimp only
  rw [gathered]
  dsimp only
  apply List.mem_append_right
  have room : ¬ (8 : Int) ≤ [relay].length := by simp
  rw [addAliveSent, if_neg room, Bool.not_true, if_neg Bool.false_ne_true]
  split
  · exact List.mem_singleton_self _
  · exact List.mem_cons_self

end Origin

/-! ## The two readers of a host -/

/-- Lower case of a text: the usual one on ASCII, and a zone stays a zone. -/
structure Lowercase where
  apply : List Char → List Char
  ascii : ∀ text, (∀ character ∈ text, character.toNat < 128) → apply text = lowered text
  percent : ∀ before after, apply (before ++ '%' :: after) = apply before ++ '%' :: apply after
  marks : ∀ text, ∀ mark ∈ ['%', '/'], mark ∈ apply text → mark ∈ text
  nonempty : ∀ text, apply text = [] → text = []

/-- The tables, with the address library over a registry. -/
def addressTables (lowercase : Lowercase) (nfkc : List Char → List Char)
    (registry : Ip.Registry) : Tables where
  lower := lowercase.apply
  nfkc := nfkc
  ipAddress := registry.ipAddress

def isInternal (address : Url.IpAddress) : Bool :=
  address.isPrivate || address.isLoopback || address.isLinkLocal || address.isReserved ||
    address.isMulticast || address.isUnspecified

def localhost : List Char := "localhost".toList

/-- What the resolver makes of a host without asking anybody. -/
def resolveLocally (registry : Ip.Registry) (host : List Char) : Option Url.IpAddress :=
  if lowered host = localhost ∨ lowered host = localhost ++ ['.'] then
    some (registry.v4 0x7F000001)
  else
    match inetAton host with
    | some number => some (registry.v4 number)
    | none => (ipv6 host).map registry.v6

def isBracket (character : Char) : Bool := character = '[' || character = ']'

/-- A host that the resolver knows and the filter takes for an ordinary name: the
name with a dot, an address of version 4 that is not four decimal octets, and one
of version 6 whose zone goes away with the brackets. -/
def LooselySpelled (host : List Char) : Prop :=
  lowered host = localhost ++ ['.'] ∨
    ((inetAton host).isSome = true ∧ ipv4 host = none) ∨
    ('%' ∈ host ∧ (Url.afterFirst '%' host).all isBracket = true)

section Hosts

variable {lowercase : Lowercase} {nfkc : List Char → List Char} {registry : Ip.Registry}
variable {host : List Char}

/-- What the filter says of a host without brackets in lower case. -/
def refuses (registry : Ip.Registry) (host : List Char) : Bool :=
  host.isEmpty || host = localhost || ".local".toList.isSuffixOf host ||
    match registry.ipAddress host with
    | none => false
    | some address => isInternal address

theorem hostIsInternal_eq (host : List Char) :
    hostIsInternal (addressTables lowercase nfkc registry) host =
      refuses registry (lowercase.apply ((host.dropWhile isBracket).rdropWhile isBracket)) :=
  rfl

theorem ascii_of_lowered {text : List Char}
    (ascii : ∀ character ∈ lowered text, character.toNat < 128) :
    ∀ character ∈ text, character.toNat < 128 := by
  intro character member
  by_contra large
  have same := Ip.toLower_of_not_ascii large
  exact large (same ▸ ascii character.toLower (List.mem_map_of_mem member))

/-- Nothing is stripped from a host that does not start and end with a bracket. -/
theorem strip_brackets {front : List Char} {mark : Char} {back : List Char}
    (first : ∀ character ∈ front.head?, isBracket character = false)
    (filled : front ≠ []) (kept : isBracket mark = false) :
    ((front ++ mark :: back).dropWhile isBracket).rdropWhile isBracket =
      front ++ mark :: back.rdropWhile isBracket := by
  obtain ⟨head, rest, rfl⟩ := List.exists_cons_of_ne_nil filled
  have plain : isBracket head = false := first head rfl
  have whole : ((head :: rest) ++ mark :: back).dropWhile isBracket =
      (head :: rest) ++ mark :: back := by
    rw [List.cons_append, List.dropWhile_cons_of_neg (by simp [plain])]
  have stop : (mark :: (head :: rest).reverse).dropWhile isBracket =
      mark :: (head :: rest).reverse := List.dropWhile_cons_of_neg (by simp [kept])
  rw [whole, List.rdropWhile, List.rdropWhile, List.reverse_append, List.reverse_cons,
    List.append_assoc, List.singleton_append, List.dropWhile_append, stop]
  split
  · rename_i empty
    rw [List.isEmpty_iff.mp empty]
    simp
  · simp

theorem strip_no_brackets (plain : ∀ character ∈ host, isBracket character = false) :
    (host.dropWhile isBracket).rdropWhile isBracket = host := by
  have kept : ∀ text : List Char, (∀ character ∈ text, isBracket character = false) →
      text.dropWhile isBracket = text := by
    intro text plain
    cases text with
    | nil => rfl
    | cons head rest => exact List.dropWhile_cons_of_neg (by simp [plain head List.mem_cons_self])
  rw [kept host plain, List.rdropWhile, kept host.reverse, List.reverse_reverse]
  exact fun character member => plain character (List.mem_reverse.mp member)

/-- The filter sees an ASCII host without brackets in lower case. -/
theorem hostIsInternal_of_plain (ascii : ∀ character ∈ host, character.toNat < 128)
    (plain : ∀ character ∈ host, isBracket character = false) :
    hostIsInternal (addressTables lowercase nfkc registry) host =
      refuses registry (lowered host) := by
  rw [hostIsInternal_eq, strip_no_brackets plain, lowercase.ascii host ascii]

theorem plain_of_address (address : ∀ character ∈ host, Ip.isAddressChar character = true) :
    ∀ character ∈ host, isBracket character = false := by
  intro character member
  have unmarked := Ip.not_mark_of_isAddressChar (address character member)
  rw [isBracket, Bool.or_eq_false_iff, decide_eq_false_iff_not, decide_eq_false_iff_not]
  constructor
  · rintro rfl
    exact unmarked (by decide)
  · rintro rfl
    exact unmarked (by decide)

theorem refuses_of_internal (address : Url.IpAddress)
    (found : registry.ipAddress host = some address) (internal : isInternal address = true) :
    refuses registry host = true := by
  rw [refuses, found]
  dsimp only
  rw [internal, Bool.or_true]

/-- A host with a character that is in no listed name passes unless it is an address. -/
theorem not_refuses (mark : Char) (last : host.getLast? = some mark) (unlisted : mark ≠ 'l')
    (different : host ≠ localhost) (unknown : registry.ipAddress host = none) :
    refuses registry host = false := by
  have filled : host.isEmpty = false := by
    cases host with
    | nil => cases last
    | cons head rest => rfl
  have notLocal : ".local".toList.isSuffixOf host = false := by
    rw [Bool.eq_false_iff]
    intro suffix
    obtain ⟨before, same⟩ := List.isSuffixOf_iff_suffix.mp suffix
    rw [← same, List.getLast?_append] at last
    exact unlisted (Option.some.inj last).symm
  rw [refuses, filled, notLocal, unknown, decide_eq_false different]
  rfl

theorem loose_toLower {character : Char} (loose : Ip.isLooseChar character = true) :
    Ip.isLooseChar character.toLower = true := by
  have all : ∀ code < 128, Ip.isLooseChar (Char.ofNat code) = true →
      Ip.isLooseChar (Char.ofNat code).toLower = true := by decide
  exact Ip.of_ascii (fun other => Ip.isLooseChar other = true →
    Ip.isLooseChar other.toLower = true) all
      (Ip.ascii_of_isAddressChar (Ip.isAddressChar_of_loose loose)) loose

theorem loose_lowered (loose : ∀ character ∈ host, Ip.isLooseChar character = true) :
    ∀ character ∈ lowered host, Ip.isLooseChar character = true := by
  intro character member
  obtain ⟨other, otherMember, rfl⟩ := List.mem_map.mp member
  exact loose_toLower (loose other otherMember)

theorem address_of_loose (loose : ∀ character ∈ host, Ip.isLooseChar character = true) :
    ∀ character ∈ host, Ip.isAddressChar character = true :=
  fun character member => Ip.isAddressChar_of_loose (loose character member)

/-- The name of the machine itself: its filter knows it without a dot only. -/
theorem not_refused_of_named
    (named : lowered host = localhost ∨ lowered host = localhost ++ ['.']) :
    hostIsInternal (addressTables lowercase nfkc registry) host = false ↔
      LooselySpelled host := by
  have letters : ∀ character ∈ lowered host, character.toNat < 128 ∧ character ≠ '[' ∧
      character ≠ ']' ∧ character ≠ '%' := by
    have table : (localhost ++ ['.']).all (fun character => decide (character.toNat < 128 ∧
        character ≠ '[' ∧ character ≠ ']' ∧ character ≠ '%')) = true := by decide
    intro character member
    refine of_decide_eq_true (List.all_eq_true.mp table character ?_)
    rcases named with name | dotted
    · exact List.mem_append_left _ (name ▸ member)
    · exact dotted ▸ member
  have unmoved : ∀ {mark : Char}, mark.toLower = mark → mark ∈ host → mark ∈ lowered host :=
    fun same member => List.mem_map.mpr ⟨_, member, same⟩
  have ascii := ascii_of_lowered fun character member => (letters character member).1
  have plain : ∀ character ∈ host, isBracket character = false := by
    intro character member
    rw [isBracket, Bool.or_eq_false_iff, decide_eq_false_iff_not, decide_eq_false_iff_not]
    constructor
    · rintro rfl
      exact (letters _ (unmoved (by decide) member)).2.1 rfl
    · rintro rfl
      exact (letters _ (unmoved (by decide) member)).2.2.1 rfl
  rw [hostIsInternal_of_plain ascii plain]
  rcases named with name | dotted
  · have refused : refuses registry (lowered host) = true := by
      rw [name]
      rfl
    have unspelled : ¬ LooselySpelled host := by
      rintro (dotted | ⟨spelled, -⟩ | ⟨zoned, -⟩)
      · rw [name] at dotted
        exact absurd dotted (by decide)
      · obtain ⟨number, spelled⟩ := Option.isSome_iff_exists.mp spelled
        have loose := loose_lowered (Ip.loose_of_inetAton spelled)
        rw [name] at loose
        exact absurd (loose 'l' (by decide)) (by decide)
      · exact (letters _ (unmoved (by decide) zoned)).2.2.2 rfl
    rw [refused]
    exact iff_of_false (by decide) unspelled
  · have passes : refuses registry (lowered host) = false := by
      rw [dotted]
      refine not_refuses '.' rfl (by decide) (by decide) ?_
      have unknown4 : ipv4 (localhost ++ ['.']) = none := by decide
      have unknown6 : ipv6 (localhost ++ ['.']) = none := by decide
      rw [Ip.Registry.ipAddress, unknown4, unknown6]
      rfl
    exact iff_of_true passes (.inl dotted)

/-- An address of version 4 is refused when it is four decimal octets. -/
theorem not_refused_of_loose {number : Nat} (spelled : inetAton host = some number)
    (unnamed : ¬ (lowered host = localhost ∨ lowered host = localhost ++ ['.']))
    (internal : isInternal (registry.v4 number) = true) :
    hostIsInternal (addressTables lowercase nfkc registry) host = false ↔
      LooselySpelled host := by
  have loose := Ip.loose_of_inetAton spelled
  have address := address_of_loose loose
  rw [hostIsInternal_of_plain
    (fun character member => Ip.ascii_of_isAddressChar (address character member))
    (plain_of_address address)]
  cases strict : ipv4 host with
  | some same =>
      have equal : same = number :=
        Option.some.inj ((Ip.inetAton_of_ipv4 strict).symm.trans spelled)
      have refused : refuses registry (lowered host) = true := by
        apply refuses_of_internal { registry.v4 number with version4 := true }
        · rw [Ip.Registry.ipAddress, Ip.ipv4_lowered, strict, equal]
        · exact internal
      have unspelled : ¬ LooselySpelled host := by
        rintro (dotted | ⟨-, unread⟩ | ⟨zoned, -⟩)
        · exact unnamed (.inr dotted)
        · rw [strict] at unread
          cases unread
        · exact Ip.no_mark_of_address (by decide) address zoned
      rw [refused]
      exact iff_of_false (by decide) unspelled
  | none =>
      have filled : lowered host ≠ [] := by
        intro empty
        have unread : inetAton [] = none := by decide
        rw [List.map_eq_nil_iff.mp empty, unread] at spelled
        cases spelled
      obtain ⟨before, last, ends⟩ := List.eq_nil_or_concat' (lowered host) |>.resolve_left filled
      have unlisted : last ≠ 'l' := by
        rintro rfl
        exact absurd (loose_lowered loose 'l' (by rw [ends]; simp)) (by decide)
      have passes : refuses registry (lowered host) = false := by
        refine not_refuses last (by rw [ends]; simp) unlisted
          (fun name => unnamed (.inl name)) ?_
        rw [Ip.Registry.ipAddress, Ip.ipv4_lowered, strict, Ip.ipv6_of_loose (loose_lowered loose)]
        rfl
      exact iff_of_true passes (.inr (.inl ⟨by rw [spelled]; rfl, strict⟩))

theorem beforeFirst_append {mark : Char} {front : List Char} (free : mark ∉ front)
    (back : List Char) : Url.beforeFirst mark (front ++ mark :: back) = front := by
  rw [Url.beforeFirst, List.takeWhile_append_of_pos, List.takeWhile_cons_of_neg (by simp),
    List.append_nil]
  intro character member
  simp only [ne_eq, decide_eq_true_eq]
  rintro rfl
  exact free member

theorem afterFirst_append {mark : Char} {front : List Char} (free : mark ∉ front)
    (back : List Char) : Url.afterFirst mark (front ++ mark :: back) = back := by
  rw [Url.afterFirst, List.dropWhile_append_of_pos, List.dropWhile_cons_of_neg (by simp)]
  · rfl
  intro character member
  simp only [ne_eq, decide_eq_true_eq]
  rintro rfl
  exact free member

/-- A zoned address is read without its zone, which there has to be. -/
theorem ipv6_zoned {front zone : List Char} (free : '%' ∉ front) (unslashed : '/' ∉ front)
    (zoneUnslashed : '/' ∉ zone) :
    ipv6 (front ++ '%' :: zone) =
      if zone.isEmpty = true ∨ '%' ∈ zone then none
      else (groups front).bind Ip.assemble := by
  have slash : '/' ∉ front ++ '%' :: zone := by
    intro member
    rcases List.mem_append.mp member with before | after
    · exact unslashed before
    · rcases List.mem_cons.mp after with same | later
      · exact absurd same (by decide)
      · exact zoneUnslashed later
  rw [ipv6, if_neg slash, if_pos (by simp), afterFirst_append free, beforeFirst_append free]

/-- Lower case brings no marks into a text. -/
theorem not_mem_lowered {mark : Char} (listed : mark ∈ ['.', ':', '0', '%', '/'])
    {text : List Char} (free : mark ∉ text) : mark ∉ lowered text := by
  intro member
  obtain ⟨other, otherMember, same⟩ := List.mem_map.mp member
  exact free ((Ip.toLower_eq_iff listed).mp same ▸ otherMember)

theorem ipv4_of_zoned {text : List Char} (zoned : '%' ∈ text) : ipv4 text = none := by
  cases read : ipv4 text with
  | none => rfl
  | some number => exact absurd (Ip.loose_of_ipv4 read '%' zoned) (by decide)

/-- An address of version 6 without a zone is refused. -/
theorem not_refused_of_unzoned {number : Nat} (unzoned : '%' ∉ host)
    (spelled : ipv6 host = some number) (unread : inetAton host = none)
    (unnamed : ¬ (lowered host = localhost ∨ lowered host = localhost ++ ['.']))
    (internal : isInternal (registry.v6 number) = true) :
    hostIsInternal (addressTables lowercase nfkc registry) host = false ↔
      LooselySpelled host := by
  have unslashed : '/' ∉ host := by
    intro slash
    rw [ipv6, if_pos slash] at spelled
    cases spelled
  have grouped : (groups host).bind Ip.assemble = some number := by
    rwa [ipv6, if_neg unslashed, if_neg unzoned] at spelled
  obtain ⟨found, read, -⟩ := Option.bind_eq_some_iff.mp grouped
  have address := Ip.address_of_groups read
  have strict : ipv4 host = none := by
    cases strict : ipv4 host with
    | none => rfl
    | some number =>
        rw [Ip.inetAton_of_ipv4 strict] at unread
        cases unread
  rw [hostIsInternal_of_plain
    (fun character member => Ip.ascii_of_isAddressChar (address character member))
    (plain_of_address address)]
  have refused : refuses registry (lowered host) = true := by
    apply refuses_of_internal { registry.v6 number with version4 := false }
    · rw [Ip.Registry.ipAddress, Ip.ipv4_lowered, strict, ipv6,
        if_neg (not_mem_lowered (by decide) unslashed),
        if_neg (not_mem_lowered (by decide) unzoned),
        Ip.groups_lowered, grouped]
      rfl
    · exact internal
  have unspelled : ¬ LooselySpelled host := by
    rintro (dotted | ⟨isRead, -⟩ | ⟨zoned, -⟩)
    · exact unnamed (.inr dotted)
    · rw [unread] at isRead
      cases isRead
    · exact unzoned zoned
  rw [refused]
  exact iff_of_false (by decide) unspelled

/-- A zone of brackets only goes away, and the address with it. -/
theorem not_refused_of_zoned {number : Nat} (zoned : '%' ∈ host)
    (spelled : ipv6 host = some number) (unread : inetAton host = none)
    (unnamed : ¬ (lowered host = localhost ∨ lowered host = localhost ++ ['.']))
    (internal : isInternal (registry.v6 number) = true) :
    hostIsInternal (addressTables lowercase nfkc registry) host = false ↔
      LooselySpelled host := by
  obtain ⟨front, zone, rfl, free⟩ := List.eq_append_cons_of_mem zoned
  have unslashed : '/' ∉ front ++ '%' :: zone := by
    intro slash
    rw [ipv6, if_pos slash] at spelled
    cases spelled
  have frontUnslashed : '/' ∉ front := fun member =>
    unslashed (List.mem_append_left _ member)
  have zoneUnslashed : '/' ∉ zone := fun member =>
    unslashed (List.mem_append_right _ (List.mem_cons_of_mem _ member))
  rw [ipv6_zoned free frontUnslashed zoneUnslashed] at spelled
  split at spelled
  · cases spelled
  rename_i filledZone
  obtain ⟨found, read, -⟩ := Option.bind_eq_some_iff.mp spelled
  have address := Ip.address_of_groups read
  have filled : front ≠ [] := by
    intro empty
    have nothing : groups [] = none := Ip.groups_of_no_colon List.not_mem_nil
    rw [empty, nothing] at read
    cases read
  have first : ∀ character ∈ front.head?, isBracket character = false :=
    fun character member =>
      plain_of_address address character (List.mem_of_mem_head? member)
  have ascii : ∀ character ∈ front, character.toNat < 128 :=
    fun character member => Ip.ascii_of_isAddressChar (address character member)
  have seen : hostIsInternal (addressTables lowercase nfkc registry) (front ++ '%' :: zone) =
      refuses registry
        (lowered front ++ '%' :: lowercase.apply (zone.rdropWhile isBracket)) := by
    rw [hostIsInternal_eq, strip_brackets first filled (by decide), lowercase.percent,
      lowercase.ascii front ascii]
  have free' := not_mem_lowered (by decide) free
  have frontUnslashed' := not_mem_lowered (by decide) frontUnslashed
  have spelling : LooselySpelled (front ++ '%' :: zone) ↔ zone.all isBracket = true := by
    constructor
    · rintro (dotted | ⟨isRead, -⟩ | ⟨-, brackets⟩)
      · exact absurd (.inr dotted) unnamed
      · rw [unread] at isRead
        cases isRead
      · rwa [afterFirst_append free] at brackets
    · intro brackets
      refine .inr (.inr ⟨zoned, ?_⟩)
      rwa [afterFirst_append free]
  rw [seen, spelling]
  by_cases brackets : zone.all isBracket = true
  · have gone : lowercase.apply (zone.rdropWhile isBracket) = [] := by
      rw [List.rdropWhile_eq_nil_iff.mpr (List.all_eq_true.mp brackets),
        lowercase.ascii [] fun character member => absurd member List.not_mem_nil]
      rfl
    rw [gone]
    refine iff_of_true (not_refuses '%' (by simp) (by decide) ?_ ?_) brackets
    · intro name
      have listed : '%' ∈ localhost := by rw [← name]; simp
      exact absurd listed (by decide)
    · rw [Ip.Registry.ipAddress, ipv4_of_zoned (by simp),
        ipv6_zoned free' frontUnslashed' List.not_mem_nil, if_pos (.inl rfl)]
      rfl
  · have kept : zone.rdropWhile isBracket ≠ [] := fun empty =>
      brackets (List.all_eq_true.mpr (List.rdropWhile_eq_nil_iff.mp empty))
    have within := (List.rdropWhile_prefix isBracket (l := zone)).subset
    have noMark : ∀ mark ∈ ['%', '/'], mark ∉ zone →
        mark ∉ lowercase.apply (zone.rdropWhile isBracket) := fun mark listed absent member =>
      absent (within (lowercase.marks _ mark listed member))
    have single : ¬ ((lowercase.apply (zone.rdropWhile isBracket)).isEmpty = true ∨
        '%' ∈ lowercase.apply (zone.rdropWhile isBracket)) := by
      rintro (empty | percent)
      · exact kept (lowercase.nonempty _ (List.isEmpty_iff.mp empty))
      · exact noMark '%' (by decide) (fun member => filledZone (.inr member)) percent
    have refused : refuses registry
        (lowered front ++ '%' :: lowercase.apply (zone.rdropWhile isBracket)) = true := by
      apply refuses_of_internal { registry.v6 number with version4 := false }
      · rw [Ip.Registry.ipAddress, ipv4_of_zoned (by simp),
          ipv6_zoned free' frontUnslashed' (noMark '/' (by decide) zoneUnslashed),
          if_neg single, Ip.groups_lowered, spelled]
        rfl
      · exact internal
    rw [refused]
    exact iff_of_false (by decide) brackets

/-- The filter lets a host of an internal address pass exactly when it is loosely
spelled. -/
theorem not_refused_iff {address : Url.IpAddress}
    (resolved : resolveLocally registry host = some address)
    (internal : isInternal address = true) :
    hostIsInternal (addressTables lowercase nfkc registry) host = false ↔
      LooselySpelled host := by
  rw [resolveLocally] at resolved
  split at resolved
  · rename_i named
    exact not_refused_of_named named
  · rename_i unnamed
    split at resolved
    · rename_i number spelled
      cases resolved
      exact not_refused_of_loose spelled unnamed internal
    · rename_i unread
      obtain ⟨number, spelled, rfl⟩ := Option.map_eq_some_iff.mp resolved
      by_cases zoned : '%' ∈ host
      · exact not_refused_of_zoned zoned spelled unread unnamed internal
      · exact not_refused_of_unzoned zoned spelled unread unnamed internal

end Hosts

/-! ## The requests to internal hosts -/

section Requests

variable {tables : Tables} {url : String}

/-- A web address with a port that there is. -/
def Askable (parts : Url.Parts) : Prop :=
  (parts.scheme = "http".toList ∨ parts.scheme = "https".toList) ∧
    ∃ port, parts.port = .ok port ∧ port ≠ some 0

theorem isDiscoverable_eq_true_iff :
    isDiscoverable tables false url = .ok true ↔
      ∃ parts, Url.urlparse tables url.toList = .ok parts ∧ Askable parts ∧
        parts.hostname tables ≠ [] ∧ hostIsInternal tables (parts.hostname tables) = false := by
  constructor
  · intro discoverable
    rw [isDiscoverable] at discoverable
    obtain ⟨parts, parsed, discoverable⟩ := except_bind_eq_ok.mp discoverable
    refine ⟨parts, parsed, ?_⟩
    split at discoverable
    · cases discoverable
    · rename_i web
      split at discoverable
      · cases discoverable
      · rename_i filled
        cases read : parts.port with
        | error raised =>
            rw [read] at discoverable
            cases discoverable
        | ok port =>
            rw [read] at discoverable
            dsimp only at discoverable
            split at discoverable
            · cases discoverable
            · rename_i open_
              split at discoverable
              · cases discoverable
              · rename_i outside
                refine ⟨⟨?_, port, read, open_⟩, ?_, ?_⟩
                · by_contra other
                  exact web (not_or.mp other)
                · exact fun empty => filled (List.isEmpty_iff.mpr empty)
                · simpa using outside
  · rintro ⟨parts, parsed, ⟨web, port, read, open_⟩, filled, outside⟩
    have named : ¬ (parts.scheme ≠ "http".toList ∧ parts.scheme ≠ "https".toList) :=
      fun other => web.elim other.1 other.2
    have hosted : ¬ (parts.hostname tables).isEmpty = true := fun empty =>
      filled (List.isEmpty_iff.mp empty)
    rw [isDiscoverable, parsed, except_ok_bind, if_neg named, if_neg hosted, read]
    dsimp only
    rw [if_neg open_, outside]
    rfl

variable (lowercase : Lowercase) (nfkc : List Char → List Char) (registry : Ip.Registry)

/-- The resolver maps the host of a URL to an internal address. -/
def ResolvesInside (url : String) : Prop :=
  ∃ parts address,
    Url.urlparse (addressTables lowercase nfkc registry) url.toList = .ok parts ∧
    resolveLocally registry (parts.hostname (addressTables lowercase nfkc registry)) =
      some address ∧ isInternal address = true

/-- Whatever is advertised and answered, no internal host is probed on account of a text. -/
def NeverProbedInside (text : String) : Prop :=
  ∀ (transport : Transport) (maxCandidates maxRelays : Int) (probe : Bool)
    (current : List String) (candidate : String), cleanUrl text = some candidate →
      .probe candidate ∈ (discoverSent (addressTables lowercase nfkc registry) false transport
        maxCandidates maxRelays probe current).1 →
      ¬ ResolvesInside lowercase nfkc registry candidate

/-- A web address on a loosely spelled internal host. -/
def LooseInternalUrl (text : String) : Prop :=
  ∃ candidate parts address, cleanUrl text = some candidate ∧
    Url.urlparse (addressTables lowercase nfkc registry) candidate.toList = .ok parts ∧
    Askable parts ∧
    resolveLocally registry (parts.hostname (addressTables lowercase nfkc registry)) =
      some address ∧ isInternal address = true ∧
    LooselySpelled (parts.hostname (addressTables lowercase nfkc registry))

variable {lowercase nfkc registry}

/-- Two relays on different hosts, one of which is on another host than a candidate. -/
theorem hostKey_relays :
    hostKey (addressTables lowercase nfkc registry) "https://a" =
        .ok ("https".toList, "a".toList, 443) ∧
      hostKey (addressTables lowercase nfkc registry) "https://b" =
        .ok ("https".toList, "b".toList, 443) := by
  have lower : ∀ character ∈ ['a', 'b'], lowercase.apply [character] = [character] := by
    intro character member
    have plain : ∀ other ∈ ['a', 'b'], other.toNat < 128 ∧ other.toLower = other := by simp
    rw [lowercase.ascii [character]
      (List.forall_mem_singleton.mpr (plain character member).1), lowered, List.map_singleton,
      (plain character member).2]
  have key : ∀ {relay : String} {character : Char}, character ∈ ['a', 'b'] →
      Url.urlparse (addressTables lowercase nfkc registry) relay.toList =
        .ok ⟨"https".toList, [character]⟩ →
      hostKey (addressTables lowercase nfkc registry) relay =
        .ok ("https".toList, [character], 443) := by
    intro relay character member parsed
    have port : Url.Parts.port ⟨"https".toList, [character]⟩ = .ok none := by
      rcases List.mem_cons.mp member with rfl | last
      · rfl
      · rw [List.mem_singleton.mp last]
        rfl
    have named : Url.Parts.hostname (addressTables lowercase nfkc registry)
        ⟨"https".toList, [character]⟩ = lowercase.apply [character] ++ [] := by
      rcases List.mem_cons.mp member with rfl | last
      · rfl
      · rw [List.mem_singleton.mp last]
        rfl
    rw [hostKey, parsed, except_ok_bind, port, named, lower character member, List.append_nil]
    change Except.ok (_, lowercase.apply [character], _) = _
    rw [lower character member]
    rfl
  exact ⟨key (by decide) rfl, key (by decide) rfl⟩

/-- A candidate that is probed and resolves inside is loosely spelled. -/
theorem loose_of_probed {text candidate : String} (cleaned : cleanUrl text = some candidate)
    (discoverable : isDiscoverable (addressTables lowercase nfkc registry) false candidate =
      .ok true)
    (inside : ResolvesInside lowercase nfkc registry candidate) :
    LooseInternalUrl lowercase nfkc registry text := by
  obtain ⟨parts, address, parsed, resolved, internal⟩ := inside
  obtain ⟨same, parsedSame, askable, -, outside⟩ := isDiscoverable_eq_true_iff.mp discoverable
  rw [parsed] at parsedSame
  cases parsedSame
  exact ⟨candidate, parts, address, cleaned, parsed, askable, resolved, internal,
    (not_refused_iff resolved internal).mp outside⟩

/-- A loosely spelled internal host is probed in some run. -/
theorem probed_of_loose {text : String} (loose : LooseInternalUrl lowercase nfkc registry text) :
    ¬ NeverProbedInside lowercase nfkc registry text := by
  obtain ⟨candidate, parts, address, cleaned, parsed, askable, resolved, internal, spelled⟩ :=
    loose
  have filled : parts.hostname (addressTables lowercase nfkc registry) ≠ [] := by
    intro empty
    have nothing : resolveLocally registry [] = none := rfl
    rw [empty, nothing] at resolved
    cases resolved
  have discoverable := isDiscoverable_eq_true_iff.mpr ⟨parts, parsed, askable, filled,
    (not_refused_iff resolved internal).mpr spelled⟩
  have inside : ResolvesInside lowercase nfkc registry candidate :=
    ⟨parts, address, parsed, resolved, internal⟩
  obtain ⟨first, second⟩ := @hostKey_relays lowercase nfkc registry
  intro never
  by_cases same : keyOf (addressTables lowercase nfkc registry) candidate =
      ("https".toList, "a".toList, 443)
  · have other : keyOf (addressTables lowercase nfkc registry) candidate ≠
        ("https".toList, "b".toList, 443) := by
      rw [same]
      decide
    exact never _ _ _ _ _ candidate cleaned
      (probed_of_discoverable rfl second cleaned discoverable other) inside
  · exact never _ _ _ _ _ candidate cleaned
      (probed_of_discoverable rfl first cleaned discoverable same) inside

variable (lowercase nfkc registry) in
/-- A discovery keeps away from the internal hosts of the texts that do not spell
them loosely, and of no others: of each text by itself, and of all that a run hears. -/
theorem internal_hosts_spared_iff :
    (∀ text, NeverProbedInside lowercase nfkc registry text ↔
      ¬ LooseInternalUrl lowercase nfkc registry text) ∧
    (∀ (transport : Transport) (maxCandidates maxRelays : Int) (probe : Bool)
      (current : List String),
      (∀ relay ∈ normalizeRelayUrls current,
        ∀ text ∈ advertisedBy transport maxCandidates relay,
          ¬ LooseInternalUrl lowercase nfkc registry text) →
      ∀ candidate, .probe candidate ∈
          (discoverSent (addressTables lowercase nfkc registry) false transport maxCandidates
            maxRelays probe current).1 →
        ¬ ResolvesInside lowercase nfkc registry candidate) := by
  constructor
  · intro text
    refine ⟨fun never loose => probed_of_loose loose never, ?_⟩
    intro tight transport maxCandidates maxRelays probe current candidate cleaned probed inside
    exact tight (loose_of_probed cleaned (offered_of_probed probed).1 inside)
  · intro transport maxCandidates maxRelays probe current tight candidate probed inside
    obtain ⟨discoverable, relay, member, text, advertised, cleaned⟩ := offered_of_probed probed
    exact tight relay member text advertised (loose_of_probed cleaned discoverable inside)

end Requests

def Lowercase.ofAscii : Lowercase where
  apply := lowered
  ascii := fun _ _ => rfl
  percent := fun before after => by rw [lowered, List.map_append, List.map_cons]; rfl
  marks := by
    intro text mark listed member
    obtain ⟨other, otherMember, same⟩ := List.mem_map.mp member
    have known := List.mem_append_right ['.', ':', '0'] listed
    exact (Ip.toLower_eq_iff known).mp same ▸ otherMember
  nonempty := fun _ empty => List.map_eq_nil_iff.mp empty

/-- The networks of the machine itself and of its neighbours. -/
def neighbours : Ip.Registry where
  v4 := fun number =>
    { isLoopback := number / 2 ^ 24 = 127
      isPrivate := number / 2 ^ 24 = 10 ∨ number / 2 ^ 24 = 127 ∨ number / 2 ^ 16 = 0xC0A8
      isLinkLocal := number / 2 ^ 16 = 0xA9FE
      isMulticast := number / 2 ^ 28 = 14
      isReserved := number / 2 ^ 28 = 15
      isUnspecified := number = 0 }
  v6 := fun number =>
    { isLoopback := number = 1
      isPrivate := number = 1
      isLinkLocal := number / 2 ^ 118 = 0x3FA
      isUnspecified := number = 0 }

/-- The resolver fills the address of the machine itself, and it is probed. -/
theorem short_loopback_is_probed :
    ¬ NeverProbedInside Lowercase.ofAscii id neighbours "http://127.1" := by
  intro never
  have probed := @probed_of_discoverable (addressTables Lowercase.ofAscii id neighbours) false
    "https://a" "http://127.1" "http://127.1" ("https".toList, "a".toList, 443) rfl
    hostKey_relays.1 rfl rfl (by decide)
  apply never _ _ _ _ _ "http://127.1" rfl probed
  exact ⟨⟨"http".toList, "127.1".toList⟩, neighbours.v4 0x7F000001, rfl, rfl, rfl⟩

end NoKnowledge.Core.Discovery

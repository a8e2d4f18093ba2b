import NoKnowledge.Crypto.SymbolicSuite
import NoKnowledge.Errors
import NoKnowledge.Foundation.Effect

/-!
# The key of the local store

The key is kept in a key file or in the keyring of the system, wherever it was
possible to keep it when it was first needed.  A key file always wins, but a
key in the keyring is forgotten by every call that cannot read the keyring:
such a call writes a key file with a new key.
-/

namespace NoKnowledge.Core

/-- One call, with what it finds of the keyring and what it draws. -/
structure KeyCall where
  /-- `NK_DISABLE_KEYRING` is set. -/
  disabled : Bool := false
  /-- The keyring answers a lookup. -/
  reads : Bool := true
  /-- The keyring takes a password. -/
  writes : Bool := true
  keyringKey : Bytes
  fileKey : Bytes
  salt : Bytes := []
  nonce : Bytes := List.replicate nonceSize 0
  keyringKeySize : keyringKey.length = keySize := by decide
  nonceFits : nonce.length = nonceSize := by decide

/-- The key file of a data directory and the password the keyring has. -/
structure KeyState where
  keyFile : Option Json := none
  password : Option String := none

abbrev KeyProg := Prog KeyState Raised

/-- Key derivations of the store: passphrase, salt and iterations. -/
abbrev Pbkdf2 := String → Bytes → Int → Bytes

def wrapIterations : Int := 600000

/-- A passphrase that is given and not empty. -/
def givenPassphrase (passphrase : Option String) : Option String :=
  passphrase.filter fun text => text ≠ ""

variable (suite : Suite) (derive : Pbkdf2) (passphrase : Option String)

/-- `_load_key_file` -/
def loadKeyFile (data : Json) : Except Raised Bytes := do
  if (← data.attempt "wrapped").truthy then
    match givenPassphrase passphrase with
    | none => throw { class_ := .value, text := "local store is passphrase-protected" }
    | some text =>
        let salt ← (← data.item "salt").toBytes
        let iterations ← (← data.item "iterations").toInt
        let wrapped ← (← data.item "wrapped").toBytes
        match suite.aeadDecrypt (derive text salt iterations) (wrapped.take 12)
            (wrapped.drop 12) [] with
        | none => throw { class_ := .aead, text := "authentication failed" }
        | some key => return key
  else (← data.item "key").toBytes

/-- `_write_key_file`: what is written. -/
def keyFileOf (call : KeyCall) (key : Bytes) : Except Raised Json :=
  match givenPassphrase passphrase with
  | none => .ok (.mkObj [("key", .str (b64e key))])
  | some text =>
      match suite.aeadEncrypt (derive text call.salt wrapIterations) call.nonce key [] with
      | none => .error { class_ := .aead }
      | some ciphertext => .ok (.mkObj [
          ("salt", .str (b64e call.salt)),
          ("iterations", .int wrapIterations),
          ("wrapped", .str (b64e (call.nonce ++ ciphertext)))])

/-- The key of the keyring, which is created when there is none. -/
def fromKeyring (call : KeyCall) : KeyProg Bytes := do
  if call.reads then
    match (← get).password.filter fun stored => stored ≠ "" with
    | some stored => Prog.lift (Json.str stored).toBytes
    | none =>
        if call.writes then
          modify fun state => { state with password := some (b64e call.keyringKey) }
          return call.keyringKey
        else throw { class_ := .value, text := "keyring" }
  else throw { class_ := .value, text := "keyring" }

def createKeyFile (call : KeyCall) : KeyProg Bytes := do
  let data ← Prog.lift (keyFileOf suite derive passphrase call call.fileKey)
  modify fun state => { state with keyFile := some data }
  return call.fileKey

/-- Obtain the local storage key. -/
def resolveStoreKey (call : KeyCall) : KeyProg Bytes := do
  match (← get).keyFile with
  | some data => Prog.lift (loadKeyFile suite derive passphrase data)
  | none =>
      if call.disabled then createKeyFile suite derive passphrase call
      else
        tryCatch (fromKeyring call) fun _ => createKeyFile suite derive passphrase call

/-- What the calls of a data directory return, one after another. -/
def storeKeys (state : KeyState) : List KeyCall → List (Except Raised Bytes)
  | [] => []
  | call :: calls =>
      ((resolveStoreKey suite derive passphrase call).run state).1 ::
        storeKeys ((resolveStoreKey suite derive passphrase call).after state) calls

/-- The keys that are kept in the file and in the keyring. -/
structure KeptKeys where
  file : Option Bytes := none
  keyring : Option Bytes := none

/-- The keyring can be read in a call. -/
def KeyCall.readable (call : KeyCall) : Bool := !call.disabled && call.reads

namespace KeptKeys

/-- The key of a call and what is kept after it. -/
def resolve (kept : KeptKeys) (call : KeyCall) : Bytes × KeptKeys :=
  match kept.file with
  | some key => (key, kept)
  | none =>
      if call.readable then
        match kept.keyring with
        | some key => (key, kept)
        | none =>
            if call.writes then
              (call.keyringKey, { kept with keyring := some call.keyringKey })
            else (call.fileKey, { kept with file := some call.fileKey })
      else (call.fileKey, { kept with file := some call.fileKey })

def keys (kept : KeptKeys) : List KeyCall → List Bytes
  | [] => []
  | call :: calls => (kept.resolve call).1 :: (kept.resolve call).2.keys calls

/-- A key in the file is the key of every call. -/
theorem keys_of_file {kept : KeptKeys} {key : Bytes} (file : kept.file = some key)
    (calls : List KeyCall) : ∀ found ∈ kept.keys calls, found = key := by
  induction calls with
  | nil =>
      intro found member
      cases member
  | cons call calls induction =>
      have resolved : kept.resolve call = (key, kept) := by
        rw [resolve, file]
      intro found member
      rw [keys, resolved] at member
      rcases List.mem_cons.mp member with rfl | later
      · rfl
      · exact induction found later

/-- A call that cannot read the keyring keeps a new key in the file. -/
theorem resolve_of_unreadable {kept : KeptKeys} {call : KeyCall}
    (noFile : kept.file = none) (unreadable : call.readable = false) :
    kept.resolve call = (call.fileKey, { kept with file := some call.fileKey }) := by
  rw [resolve, noFile, unreadable]
  rfl

theorem resolve_of_held {kept : KeptKeys} {call : KeyCall} {key : Bytes}
    (noFile : kept.file = none) (keyring : kept.keyring = some key)
    (readable : call.readable = true) : kept.resolve call = (key, kept) := by
  rw [resolve, noFile, keyring, readable]
  rfl

theorem resolve_of_empty {kept : KeptKeys} {call : KeyCall} (noFile : kept.file = none)
    (empty : kept.keyring = none) (readable : call.readable = true) :
    kept.resolve call =
      if call.writes then (call.keyringKey, { kept with keyring := some call.keyringKey })
      else (call.fileKey, { kept with file := some call.fileKey }) := by
  rw [resolve, noFile, empty, readable]
  rfl

/-- A key in the keyring is the key of every call as long as the keyring can be
read. -/
theorem keys_of_keyring_iff {kept : KeptKeys} {key : Bytes} (noFile : kept.file = none)
    (keyring : kept.keyring = some key) {calls : List KeyCall}
    (others : ∀ call ∈ calls, call.fileKey ≠ key) :
    (∀ found ∈ kept.keys calls, found = key) ↔ ∀ call ∈ calls, call.readable = true := by
  induction calls with
  | nil =>
      constructor
      · intro _ call member
        cases member
      · intro _ found member
        cases member
  | cons call calls induction =>
      have later := induction fun other member => others other (List.mem_cons_of_mem _ member)
      rw [keys, List.forall_mem_cons, List.forall_mem_cons]
      cases readable : call.readable with
      | true =>
          rw [resolve_of_held noFile keyring readable, later]
          exact ⟨fun same => ⟨rfl, same.2⟩, fun all => ⟨rfl, all.2⟩⟩
      | false =>
          rw [resolve_of_unreadable noFile readable]
          constructor
          · rintro ⟨same, -⟩
            exact absurd same (others call List.mem_cons_self)
          · rintro ⟨read, -⟩
            cases read

end KeptKeys

/-- The first call finds its key in the keyring, or keeps it there. -/
def choosesKeyring (held : Option Bytes) : List KeyCall → Bool
  | [] => false
  | first :: _ => first.readable && (held.isSome || first.writes)

/-- What is drawn in the calls. -/
def drawnKeys (calls : List KeyCall) : List Bytes :=
  calls.flatMap fun call => [call.keyringKey, call.fileKey]

theorem fileKey_drawn {call : KeyCall} {calls : List KeyCall} (member : call ∈ calls) :
    call.fileKey ∈ drawnKeys calls :=
  List.mem_flatMap.mpr ⟨call, member, by simp⟩

/-- All items of a list are the same exactly when they are its first. -/
theorem exists_constant_cons {α : Type} {first : α} {items : List α} :
    (∃ value, ∀ item ∈ first :: items, item = value) ↔ ∀ item ∈ items, item = first := by
  constructor
  · rintro ⟨value, same⟩ item member
    rw [same item (List.mem_cons_of_mem _ member), same first List.mem_cons_self]
  · intro same
    exact ⟨first, List.forall_mem_cons.mpr ⟨rfl, same⟩⟩

/-- All calls have one key exactly when it is in a file or the keyring can be
read in every call. -/
theorem KeptKeys.keys_agree_iff {held : Option Bytes} {calls : List KeyCall}
    (distinct : (held.toList ++ drawnKeys calls).Nodup) :
    (∃ key, ∀ found ∈ ({ keyring := held } : KeptKeys).keys calls, found = key) ↔
      (choosesKeyring held calls = true → ∀ call ∈ calls, call.readable = true) := by
  cases calls with
  | nil =>
      constructor
      · intro _ chosen
        cases chosen
      · intro _
        exact ⟨[], fun found member => by cases member⟩
  | cons first later =>
      rw [KeptKeys.keys, exists_constant_cons, choosesKeyring]
      cases readable : first.readable with
      | false =>
          rw [resolve_of_unreadable rfl readable]
          constructor
          · intro _ chosen
            cases chosen
          · intro _
            exact keys_of_file rfl later
      | true =>
          rw [List.forall_mem_cons]
          cases held with
          | some key =>
              have others : ∀ call ∈ later, call.fileKey ≠ key := by
                intro call member same
                apply (List.nodup_cons.mp distinct).1
                exact same ▸ fileKey_drawn (List.mem_cons_of_mem _ member)
              rw [resolve_of_held rfl rfl readable, keys_of_keyring_iff rfl rfl others]
              exact ⟨fun all _ => ⟨readable, all⟩, fun all => (all rfl).2⟩
          | none =>
              rw [resolve_of_empty rfl rfl readable]
              cases writes : first.writes with
              | false =>
                  constructor
                  · intro _ chosen
                    cases chosen
                  · intro _
                    exact keys_of_file rfl later
              | true =>
                  have others : ∀ call ∈ later, call.fileKey ≠ first.keyringKey := by
                    intro call member same
                    apply (List.nodup_cons.mp distinct).1
                    rw [← same]
                    exact List.mem_cons_of_mem _ (fileKey_drawn member)
                  rw [if_pos rfl, keys_of_keyring_iff rfl rfl others]
                  exact ⟨fun all _ => ⟨readable, all⟩, fun all => (all rfl).2⟩

/-- Under every key of a passphrase something can be encrypted. -/
def Pbkdf2.Wraps (suite : Suite) (derive : Pbkdf2) : Prop :=
  ∀ text salt nonce key, nonce.length = nonceSize →
    ∃ ciphertext,
      suite.aeadEncrypt (derive text salt wrapIterations) nonce key [] = some ciphertext

variable {suite derive passphrase}

/-- What is written to the key file is read from it. -/
theorem keyFileOf_loads (correct : suite.AeadCorrect) (wraps : derive.Wraps suite)
    (call : KeyCall) (key : Bytes) :
    ∃ data, keyFileOf suite derive passphrase call key = .ok data ∧
      loadKeyFile suite derive passphrase data = .ok key := by
  cases given : givenPassphrase passphrase with
  | none =>
      refine ⟨.mkObj [("key", .str (b64e key))], by rw [keyFileOf, given], ?_⟩
      have plain : (Json.mkObj [("key", .str (b64e key))]).attempt "wrapped" = .ok .null := rfl
      have stored : (Json.mkObj [("key", .str (b64e key))]).item "key" =
          .ok (.str (b64e key)) := rfl
      rw [loadKeyFile, plain, except_ok_bind, if_neg (by decide), stored, except_ok_bind]
      exact Json.toBytes_str_eq_ok.mpr (b64d_b64e key)
  | some text =>
      obtain ⟨ciphertext, encrypted⟩ := wraps text call.salt call.nonce key call.nonceFits
      have nonempty : call.nonce ++ ciphertext ≠ [] := by
        intro empty
        have sized := call.nonceFits
        rw [(List.append_eq_nil_iff.mp empty).1] at sized
        cases sized
      let wrapped : Json := .str (b64e (call.nonce ++ ciphertext))
      let data : Json := .mkObj [("salt", .str (b64e call.salt)),
        ("iterations", .int wrapIterations), ("wrapped", wrapped)]
      have truthy : wrapped.truthy = true := decide_eq_true (b64e_ne_empty nonempty)
      have saltRead : data.item "salt" = .ok (.str (b64e call.salt)) :=
        Json.item_eq_ok.mpr (by rw [Json.get?_mkObj]; rfl)
      have iterationsRead : data.item "iterations" = .ok (.int wrapIterations) :=
        Json.item_eq_ok.mpr (by rw [Json.get?_mkObj]; rfl)
      have wrappedRead : data.item "wrapped" = .ok wrapped :=
        Json.item_eq_ok.mpr (by rw [Json.get?_mkObj]; rfl)
      have attempted : data.attempt "wrapped" = .ok wrapped :=
        congrArg (fun found : Option Json => Except.ok (found.getD .null))
          (Json.item_eq_ok.mp wrappedRead)
      have saltBytes : (Json.str (b64e call.salt)).toBytes = .ok call.salt :=
        Json.toBytes_str_eq_ok.mpr (b64d_b64e _)
      have iterations : (Json.int wrapIterations).toInt = .ok wrapIterations := rfl
      have wrappedBytes : wrapped.toBytes = .ok (call.nonce ++ ciphertext) :=
        Json.toBytes_str_eq_ok.mpr (b64d_b64e _)
      have prefix_ : (call.nonce ++ ciphertext).take 12 = call.nonce :=
        List.take_left' call.nonceFits
      have suffix_ : (call.nonce ++ ciphertext).drop 12 = ciphertext :=
        List.drop_left' call.nonceFits
      refine ⟨data, by simp only [keyFileOf, given, encrypted]; rfl, ?_⟩
      simp only [loadKeyFile, attempted, except_ok_bind, truthy, if_true, given, saltRead,
        iterationsRead, wrappedRead, saltBytes, iterations, wrappedBytes, prefix_, suffix_,
        correct _ _ _ _ _ call.nonceFits encrypted]
      rfl

/-- The key file and the keyring have the keys that are kept. -/
structure Represents (suite : Suite) (derive : Pbkdf2) (passphrase : Option String)
    (state : KeyState) (kept : KeptKeys) : Prop where
  noFile : kept.file = none → state.keyFile = none
  file : ∀ key, kept.file = some key →
    ∃ data, state.keyFile = some data ∧ loadKeyFile suite derive passphrase data = .ok key
  password : state.password = kept.keyring.map b64e
  nonempty : ∀ key, kept.keyring = some key → key ≠ []

theorem createKeyFile_represents (correct : suite.AeadCorrect) (wraps : derive.Wraps suite)
    {state : KeyState} {kept : KeptKeys}
    (represents : Represents suite derive passphrase state kept) (call : KeyCall) :
    ∃ final, (createKeyFile suite derive passphrase call).run state =
        (.ok call.fileKey, final) ∧
      Represents suite derive passphrase final { kept with file := some call.fileKey } := by
  obtain ⟨data, written, loads⟩ :=
    @keyFileOf_loads suite derive passphrase correct wraps call call.fileKey
  refine ⟨{ state with keyFile := some data }, ?_, ?_⟩
  · rw [createKeyFile, written]
    rfl
  · exact
      { noFile := fun missing => by cases missing
        file := fun key same => by
          cases same
          exact ⟨data, rfl, loads⟩
        password := represents.password
        nonempty := represents.nonempty }

/-- A call returns the key that is kept and keeps what it should. -/
theorem resolveStoreKey_refines (correct : suite.AeadCorrect) (wraps : derive.Wraps suite)
    {state : KeyState} {kept : KeptKeys}
    (represents : Represents suite derive passphrase state kept) (call : KeyCall) :
    ∃ final, (resolveStoreKey suite derive passphrase call).run state =
        (.ok (kept.resolve call).1, final) ∧
      Represents suite derive passphrase final (kept.resolve call).2 := by
  have created := createKeyFile_represents correct wraps represents call
  have password := represents.password
  rw [resolveStoreKey, Prog.run_bind, Prog.run_get]
  dsimp only
  cases file : kept.file with
  | some key =>
      obtain ⟨data, stored, loads⟩ := represents.file key file
      have resolved : kept.resolve call = (key, kept) := by rw [KeptKeys.resolve, file]
      rw [stored, resolved]
      dsimp only
      rw [loads, Prog.run_lift_ok]
      exact ⟨state, rfl, represents⟩
  | none =>
      rw [represents.noFile file]
      dsimp only
      cases disabled : call.disabled with
      | true =>
          have unreadable : call.readable = false := by rw [KeyCall.readable, disabled]; rfl
          rw [if_pos rfl, KeptKeys.resolve_of_unreadable file unreadable]
          exact created
      | false =>
          rw [if_neg Bool.false_ne_true, Prog.run_tryCatch, fromKeyring]
          cases reads : call.reads with
          | false =>
              have unreadable : call.readable = false := by
                rw [KeyCall.readable, disabled, reads]
                rfl
              rw [if_neg Bool.false_ne_true, Prog.run_throw,
                KeptKeys.resolve_of_unreadable file unreadable]
              exact created
          | true =>
              have readable : call.readable = true := by
                rw [KeyCall.readable, disabled, reads]
                rfl
              rw [if_pos rfl, Prog.run_bind, Prog.run_get]
              dsimp only
              cases keyring : kept.keyring with
              | some key =>
                  have stored : (some (b64e key)).filter (fun stored => stored ≠ "") =
                      some (b64e key) :=
                    Option.filter_some_pos
                      (decide_eq_true (b64e_ne_empty (represents.nonempty key keyring)))
                  have decoded : (Json.str (b64e key)).toBytes = .ok key :=
                    Json.toBytes_str_eq_ok.mpr (b64d_b64e key)
                  rw [keyring, Option.map_some] at password
                  rw [KeptKeys.resolve_of_held file keyring readable, password, stored]
                  dsimp only
                  rw [decoded, Prog.run_lift_ok]
                  exact ⟨state, rfl, represents⟩
              | none =>
                  rw [keyring, Option.map_none] at password
                  rw [KeptKeys.resolve_of_empty file keyring readable, password,
                    Option.filter_none]
                  dsimp only
                  cases writes : call.writes with
                  | false =>
                      rw [if_neg Bool.false_ne_true, if_neg Bool.false_ne_true,
                        Prog.run_throw]
                      exact created
                  | true =>
                      rw [if_pos rfl, if_pos rfl, Prog.run_bind, Prog.run_modify]
                      refine ⟨_, rfl, ?_⟩
                      exact
                        { noFile := fun _ => represents.noFile file
                          file := represents.file
                          password := rfl
                          nonempty := fun key same => by
                            cases same
                            exact nonempty_of_keySize call.keyringKeySize }

/-- The calls of the code return the keys that are kept. -/
theorem storeKeys_eq (correct : suite.AeadCorrect) (wraps : derive.Wraps suite)
    {state : KeyState} {kept : KeptKeys}
    (represents : Represents suite derive passphrase state kept) (calls : List KeyCall) :
    storeKeys suite derive passphrase state calls = (kept.keys calls).map .ok := by
  induction calls generalizing state kept with
  | nil => rfl
  | cons call calls induction =>
      obtain ⟨final, ran, next⟩ := resolveStoreKey_refines correct wraps represents call
      rw [storeKeys, KeptKeys.keys, Prog.after, ran, induction next]
      rfl

/-- The state of a data directory without a key file. -/
def KeyState.fresh (held : Option Bytes) : KeyState where
  password := held.map b64e

/-- All calls of a data directory return one key if and only if the first one
does not choose the keyring, or the keyring can be read in every call. -/
theorem store_key_stable_iff (correct : suite.AeadCorrect) (wraps : derive.Wraps suite)
    {held : Option Bytes} (sized : ∀ key, held = some key → key.length = keySize)
    {calls : List KeyCall} (distinct : (held.toList ++ drawnKeys calls).Nodup) :
    (∃ key, ∀ result ∈ storeKeys suite derive passphrase (.fresh held) calls,
        result = .ok key) ↔
      (choosesKeyring held calls = true → ∀ call ∈ calls, call.readable = true) := by
  have represents : Represents suite derive passphrase (.fresh held) { keyring := held } :=
    { noFile := fun _ => rfl
      file := fun key stored => by cases stored
      password := rfl
      nonempty := fun key same => nonempty_of_keySize (sized key same) }
  rw [← KeptKeys.keys_agree_iff distinct, storeKeys_eq correct wraps represents calls]
  simp only [List.forall_mem_map, Except.ok.injEq]

/-- A call that draws keys of one octet each, repeated. -/
def keyCall (disabled : Bool) (octet : UInt8) : KeyCall where
  disabled := disabled
  keyringKey := List.replicate keySize octet
  fileKey := List.replicate keySize (octet + 1)
  keyringKeySize := List.length_replicate

/-- The key file is read whether the keyring is there or not. -/
theorem store_key_stable_iff_file :
    ∃ key, ∀ result ∈ storeKeys Symbolic.suite (fun _ _ _ => []) none (.fresh none)
      [keyCall true 1, keyCall false 3, keyCall true 5], result = .ok key :=
  (store_key_stable_iff Symbolic.suite_aeadCorrect (fun _ _ _ _ _ => ⟨_, rfl⟩)
    (fun _ held => by cases held) (by decide)).mpr fun chosen => by cases chosen

/-- A call without the keyring does not return the key the keyring has. -/
theorem disabled_keyring_orphans_the_store :
    ¬ ∃ key, ∀ result ∈ storeKeys Symbolic.suite (fun _ _ _ => []) none (.fresh none)
      [keyCall false 1, keyCall true 3], result = .ok key := by
  rintro ⟨key, same⟩
  have results : storeKeys Symbolic.suite (fun _ _ _ => []) none (.fresh none)
      [keyCall false 1, keyCall true 3] =
        [.ok (List.replicate keySize 1), .ok (List.replicate keySize 4)] := rfl
  rw [results] at same
  have first := same _ List.mem_cons_self
  have second := same _ (List.mem_cons_of_mem _ List.mem_cons_self)
  exact absurd (first.trans second.symm) (by decide)

end NoKnowledge.Core

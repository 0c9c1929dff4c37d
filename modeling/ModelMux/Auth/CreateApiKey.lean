/-
The script that creates an API key.

A key is the base64url text of 32 random bytes after a fixed mark.  Only the
digest of its text is stored, beside the first twelve characters.  The random
bytes and the id of the row are given; the configuration has been loaded.
-/

import ModelMux.Auth.Guard
import ModelMux.Json.NumberText

namespace ModelMux.Auth

open RateLimit

/-! ### base64url -/

def base64urlAlphabet : JsString :=
  JsString.ofString "ABCDEFGHIJKLMNOPQRSTUVWXYZabcdefghijklmnopqrstuvwxyz0123456789-_"

def base64urlUnit (value : ℕ) : CodeUnit := base64urlAlphabet.getD value 0

def sextets : List UInt8 → List ℕ
  | [] => []
  | [first] => [first.toNat / 4, first.toNat % 4 * 16]
  | [first, second] =>
      [first.toNat / 4, first.toNat % 4 * 16 + second.toNat / 16, second.toNat % 16 * 4]
  | first :: second :: third :: rest =>
      first.toNat / 4 :: (first.toNat % 4 * 16 + second.toNat / 16) ::
        (second.toNat % 16 * 4 + third.toNat / 64) :: third.toNat % 64 :: sextets rest

/-- `buffer.toString("base64url")`, which writes no padding. -/
def base64url (bytes : List UInt8) : JsString := (sextets bytes).map base64urlUnit

theorem sextets_small (bytes : List UInt8) : ∀ value ∈ sextets bytes, value < 64 := by
  induction bytes using sextets.induct with
  | case1 => simp [sextets]
  | case2 first =>
      have bound := first.toNat_lt
      simp only [sextets, List.mem_cons, List.not_mem_nil, or_false]
      omega
  | case3 first second =>
      have bounds := And.intro first.toNat_lt second.toNat_lt
      simp only [sextets, List.mem_cons, List.not_mem_nil, or_false]
      omega
  | case4 first second third rest ih =>
      have bounds := And.intro first.toNat_lt (And.intro second.toNat_lt third.toNat_lt)
      intro value member
      simp only [sextets, List.mem_cons] at member
      rcases member with head | head | head | head | tail
      · omega
      · omega
      · omega
      · omega
      · exact ih value tail

theorem sextets_injective {left right : List UInt8} (same : sextets left = sextets right) :
    left = right := by
  induction left using sextets.induct generalizing right with
  | case1 =>
      rcases right with _ | ⟨first', _ | ⟨second', _ | ⟨third', rest'⟩⟩⟩ <;>
        simp [sextets] at same ⊢
  | case2 first =>
      rcases right with _ | ⟨first', _ | ⟨second', _ | ⟨third', rest'⟩⟩⟩ <;>
        simp only [sextets, List.cons.injEq, reduceCtorEq, and_false, and_true,
          ← UInt8.toNat_inj] at same ⊢
      omega
  | case3 first second =>
      have bounds := And.intro first.toNat_lt second.toNat_lt
      rcases right with _ | ⟨first', _ | ⟨second', _ | ⟨third', rest'⟩⟩⟩ <;>
        simp only [sextets, List.cons.injEq, reduceCtorEq, and_false, and_true,
          ← UInt8.toNat_inj] at same ⊢
      have bounds' := And.intro first'.toNat_lt second'.toNat_lt
      omega
  | case4 first second third rest ih =>
      have bounds := And.intro first.toNat_lt (And.intro second.toNat_lt third.toNat_lt)
      rcases right with _ | ⟨first', _ | ⟨second', _ | ⟨third', rest'⟩⟩⟩ <;>
        simp only [sextets, List.cons.injEq, reduceCtorEq, and_false] at same
      have bounds' := And.intro first'.toNat_lt (And.intro second'.toNat_lt third'.toNat_lt)
      obtain ⟨one, two, three, four, others⟩ := same
      have firsts : first = first' := UInt8.toNat_inj.mp (by omega)
      have seconds : second = second' := UInt8.toNat_inj.mp (by omega)
      have thirds : third = third' := UInt8.toNat_inj.mp (by omega)
      rw [firsts, seconds, thirds, ih others]

theorem idxOf_base64urlUnit {value : ℕ} (small : value < 64) :
    base64urlAlphabet.idxOf (base64urlUnit value) = value := by
  have all : ∀ value : Fin 64, base64urlAlphabet.idxOf (base64urlUnit value.val) = value.val := by
    decide +kernel
  exact all ⟨value, small⟩

theorem base64url_injective {left right : List UInt8} (same : base64url left = base64url right) :
    left = right := by
  have decoded (bytes : List UInt8) :
      (base64url bytes).map (fun unit => base64urlAlphabet.idxOf unit) = sextets bytes := by
    rw [base64url, List.map_map]
    exact (List.map_congr_left (fun value member =>
      idxOf_base64urlUnit (sextets_small bytes value member))).trans (List.map_id _)
  apply sextets_injective
  rw [← decoded left, ← decoded right, same]

theorem base64url_printable (bytes : List UInt8) :
    ∀ unit ∈ base64url bytes, unit.isSpace = false ∧ unit.toNat < 0x80 := by
  have all : ∀ value : Fin 64, (base64urlUnit value.val).isSpace = false ∧
      (base64urlUnit value.val).toNat < 0x80 := by decide +kernel
  intro unit member
  obtain ⟨value, listed, rfl⟩ := List.mem_map.mp member
  exact all ⟨value, sextets_small bytes value listed⟩

/-! ### The script -/

/-- The text of a key for its random bytes. -/
def rawKey (bytes : List UInt8) : JsString := JsString.ofString "mm_" ++ base64url bytes

def parseCapacity (value : JsString) : Except JsString ℤ :=
  match JsNumber.ofText value with
  | .finite parsed =>
      if (JsNumber.finite parsed).isInteger && !(JsNumber.finite parsed).lessThan (.finite 1) then
        .ok parsed.num
      else .error (JsString.ofString "Capacity must be a positive integer; received " ++ value)
  | _ => .error (JsString.ofString "Capacity must be a positive integer; received " ++ value)

def parseRefillRate (value : JsString) : Except JsString JsNumber :=
  let parsed := JsNumber.ofText value
  if !parsed.isFinite || parsed.atMost (.finite 0) then
    .error (JsString.ofString "Refill rate must be positive; received " ++ value)
  else .ok parsed

/-- `INSERT INTO api_keys`: the range of `INTEGER`, the checks of the table and its two
unique columns. -/
def insertApiKey (keys : ApiKeyTable) (row : ApiKeyRow) : Option ApiKeyTable :=
  if 0 < row.rateLimitCapacity && row.rateLimitCapacity ≤ 2147483647 &&
      (JsNumber.finite 0).lessThan row.rateLimitRefillPerSecond then
    match keys.insert row with
    | .inserted keys' => some keys'
    | _ => none
  else none

inductive CreateOutcome where
  | usage
  | failed (message : Option JsString)
  | created (keys : ApiKeyTable) (rawApiKey : JsString) (row : ApiKeyRow)

structure CreateArguments where
  name : Option JsString
  capacityInput : Option JsString
  refillInput : Option JsString

section Script

variable (sha256 : List UInt8 → JsString)

def newKeyRow (name : JsString) (capacity : ℤ) (refillPerSecond : JsNumber) (bytes : List UInt8)
    (id : JsString) : ApiKeyRow :=
  { id := id
    name := name
    keyPrefix := (rawKey bytes).take 12
    keyHash := hashApiKey sha256 (rawKey bytes)
    rateLimitCapacity := capacity
    rateLimitRefillPerSecond := refillPerSecond
    enabled := true }

def createApiKey (keys : ApiKeyTable) (arguments : CreateArguments) (bytes : List UInt8)
    (id : JsString) : CreateOutcome :=
  let name := (arguments.name.getD []).trim
  if name = [] then .usage
  else
    match parseCapacity (arguments.capacityInput.getD (JsString.ofString "10")) with
    | .error message => .failed (some message)
    | .ok capacity =>
        match parseRefillRate (arguments.refillInput.getD (JsString.ofString "1")) with
        | .error message => .failed (some message)
        | .ok refillPerSecond =>
            let row := newKeyRow sha256 name capacity refillPerSecond bytes id
            match insertApiKey keys row with
            | none => .failed none
            | some keys' => .created keys' (rawKey bytes) row

end Script

variable {sha256 : List UInt8 → JsString} {keys keys' : ApiKeyTable} {arguments : CreateArguments}
  {bytes : List UInt8} {id rawApiKey : JsString} {row : ApiKeyRow}

theorem insertApiKey_eq_some (inserted : insertApiKey keys row = some keys') :
    keys'.rows = keys.rows ++ [row] ∧ row.keyHash ∉ keys.rows.map ApiKeyRow.keyHash ∧
      row.id ∉ keys.rows.map ApiKeyRow.id ∧ 0 < row.rateLimitCapacity := by
  unfold insertApiKey at inserted
  split at inserted
  · rename_i checked
    simp only [Bool.and_eq_true, decide_eq_true_eq] at checked
    split at inserted
    · rename_i done
      cases inserted
      obtain ⟨rows, hash, fresh⟩ := KeyedTable.insert_inserted done
      exact ⟨rows, hash, fresh, checked.1.1⟩
    · cases inserted
  · cases inserted

theorem parseRefillRate_eq_ok {value : JsString} {refillPerSecond : JsNumber}
    (parsed : parseRefillRate value = .ok refillPerSecond) :
    refillPerSecond.isFinite = true ∧ refillPerSecond.atMost (.finite 0) = false := by
  unfold parseRefillRate at parsed
  dsimp only at parsed
  split at parsed
  · cases parsed
  · rename_i passed
    cases parsed
    simpa using passed

theorem validatePolicy_row (positive : 0 < row.rateLimitCapacity)
    (finite : row.rateLimitRefillPerSecond.isFinite = true)
    (refills : row.rateLimitRefillPerSecond.atMost (.finite 0) = false) :
    validatePolicy row.principal.rateLimit = .ok () := by
  have large : ¬(row.rateLimitCapacity : ℚ) < 1 := by
    rw [not_lt]
    exact_mod_cast positive
  simp [validatePolicy, ApiKeyRow.principal, JsNumber.isInteger, JsNumber.lessThan, large, finite,
    refills]

structure CreatedAs (sha256 : List UInt8 → JsString) (keys : ApiKeyTable) (bytes : List UInt8)
    (keys' : ApiKeyTable) (rawApiKey : JsString) (row : ApiKeyRow) : Prop where
  key : rawApiKey = rawKey bytes
  rows : keys'.rows = keys.rows ++ [row]
  hash : row.keyHash = hashApiKey sha256 rawApiKey
  enabled : row.enabled = true
  unclaimed : row.keyHash ∉ keys.rows.map ApiKeyRow.keyHash
  fresh : row.id ∉ keys.rows.map ApiKeyRow.id
  accepted : validatePolicy row.principal.rateLimit = .ok ()

theorem createdAs (created : createApiKey sha256 keys arguments bytes id =
    .created keys' rawApiKey row) : CreatedAs sha256 keys bytes keys' rawApiKey row := by
  unfold createApiKey at created
  dsimp only at created
  split at created
  · cases created
  · split at created
    · cases created
    · rename_i capacity parsedCapacity
      split at created
      · cases created
      · rename_i refillPerSecond parsedRefill
        split at created
        · cases created
        · rename_i inserted
          cases created
          obtain ⟨rows, unclaimed, fresh, positive⟩ := insertApiKey_eq_some inserted
          obtain ⟨finite, refills⟩ := parseRefillRate_eq_ok parsedRefill
          exact ⟨rfl, rows, rfl, rfl, unclaimed, fresh, validatePolicy_row positive finite refills⟩

/-! ### Texts of ASCII units -/

theorem unitScalar_ascii {unit : CodeUnit} (small : Utf8.unitScalar unit < 0x80) :
    Utf8.unitScalar unit = unit.toNat := by
  unfold Utf8.unitScalar Utf8.replacement at *
  split at small
  · omega
  · rename_i ordinary
    rw [if_neg ordinary]

theorem scalars_ascii {text : JsString} (small : ∀ scalar ∈ Utf8.scalars text, scalar < 0x80) :
    Utf8.scalars text = text.map UInt16.toNat := by
  induction text using Utf8.scalars.induct with
  | case1 => rfl
  | case2 unit =>
      have here := small (Utf8.unitScalar unit) (by simp [Utf8.scalars])
      rw [Utf8.scalars, unitScalar_ascii here]
      rfl
  | case3 first second rest pair ih =>
      have here := small (Utf8.pairScalar first second) (by simp [Utf8.scalars, pair])
      have large : 0x10000 ≤ Utf8.pairScalar first second := by
        unfold Utf8.pairScalar
        omega
      omega
  | case4 first second rest single ih =>
      rw [Utf8.scalars, if_neg single] at small ⊢
      have later := ih (fun scalar member => small scalar (List.mem_cons_of_mem _ member))
      rw [unitScalar_ascii (small _ List.mem_cons_self), later]
      rfl

theorem eq_of_encode_ascii {text ascii : JsString} (plain : ∀ unit ∈ ascii, unit.toNat < 0x80)
    (same : Utf8.encode text = Utf8.encode ascii) : text = ascii := by
  have ordinary : ∀ unit ∈ ascii, (!unit.isSurrogate) = true := by
    intro unit member
    have small := plain unit member
    exact Utf8.not_surrogate_iff.mpr (by omega)
  have scalars : Utf8.scalars ascii = ascii.map UInt16.toNat := (Utf8.scalars_of_single ordinary).2
  have decoded := congrArg Utf8.decodeScalars same
  rw [Utf8.encode, Utf8.encode, Utf8.decodeScalars_flatMap (Utf8.isScalar_scalars _),
    Utf8.decodeScalars_flatMap (Utf8.isScalar_scalars _), Option.some.injEq, scalars] at decoded
  have small : ∀ scalar ∈ Utf8.scalars text, scalar < 0x80 := by
    intro scalar member
    rw [decoded] at member
    obtain ⟨unit, listed, rfl⟩ := List.mem_map.mp member
    exact plain unit listed
  rw [scalars_ascii small] at decoded
  exact List.map_injective_iff.mpr (fun _ _ => UInt16.toNat_inj.mp) decoded

/-! ### Round trip -/

theorem authenticate_iff {database : ApiKeyTable} {header : Option JsString}
    {apiKey : ApiKeyPrincipal} :
    authenticate sha256 (some database) header = .ok apiKey ↔
      ∃ token row, parseBearerToken header = some token ∧ row ∈ database.rows ∧
        row.keyHash = hashApiKey sha256 token ∧ row.enabled = true ∧
        validatePolicy apiKey.rateLimit = .ok () ∧ row.principal = apiKey := by
  unfold authenticate
  cases parsed : parseBearerToken header with
  | none => simp
  | some token =>
      have found : authenticated (findEnabledByHash (some database) (hashApiKey sha256 token)) =
          .ok apiKey ↔ findEnabledByHash (some database) (hashApiKey sha256 token) =
            .ok (some apiKey) := by
        cases findEnabledByHash (some database) (hashApiKey sha256 token) with
        | error error => simp [authenticated]
        | ok principal => cases principal <;> simp [authenticated]
      dsimp only
      rw [found, findEnabledByHash_eq_some_iff]
      constructor
      · rintro ⟨row, selected, accepted, same⟩
        obtain ⟨member, hash, enabled⟩ := selectEnabled_eq_some_iff.mp selected
        exact ⟨token, row, rfl, member, hash, enabled, accepted, same⟩
      · rintro ⟨token', row, same, member, hash, enabled, accepted, principal⟩
        cases same
        exact ⟨row, selectEnabled_eq_some_iff.mpr ⟨member, hash, enabled⟩, accepted, principal⟩

theorem rawKey_printable (bytes : List UInt8) :
    ∀ unit ∈ rawKey bytes, unit.isSpace = false ∧ unit.toNat < 0x80 := by
  have mark : ∀ unit ∈ JsString.ofString "mm_", unit.isSpace = false ∧ unit.toNat < 0x80 :=
    List.all_iff_forall_prop.mp (by decide)
  intro unit member
  rcases List.mem_append.mp member with marked | encoded
  · exact mark unit marked
  · exact base64url_printable bytes unit encoded

def NoSecondPreimage (sha256 : List UInt8 → JsString) (rawApiKey : JsString) : Prop :=
  ∀ bytes, sha256 bytes = sha256 (Utf8.encode rawApiKey) → bytes = Utf8.encode rawApiKey

theorem token_of_hash {token : JsString} (resistant : NoSecondPreimage sha256 (rawKey bytes))
    (same : hashApiKey sha256 token = hashApiKey sha256 (rawKey bytes)) : token = rawKey bytes :=
  eq_of_encode_ascii (fun unit member => (rawKey_printable bytes unit member).2)
    (resistant _ same)

/-- A row with another digest is not found in place of an older one. -/
theorem selectEnabled_other {keyHash : JsString} (rows : keys'.rows = keys.rows ++ [row])
    (other : row.keyHash ≠ keyHash) : selectEnabled keys' keyHash = selectEnabled keys keyHash := by
  unfold selectEnabled KeyedTable.select
  rw [rows, List.find?_append]
  simp [other]

/-- What the script prints is what the gateway accepts: the text of the new key, and
only this text, stands for the new row; other texts stand for what they stood for
before, and different random bytes give different keys. -/
theorem created_key_authenticates
    (created : createApiKey sha256 keys arguments bytes id = .created keys' rawApiKey row)
    (resistant : NoSecondPreimage sha256 rawApiKey) :
    (∀ header, authenticate sha256 (some keys') header = .ok row.principal ↔
        ∃ text, header = some text ∧ BearerHeader text rawApiKey) ∧
      (∀ header, (∀ text, header = some text → ¬BearerHeader text rawApiKey) →
        authenticate sha256 (some keys') header = authenticate sha256 (some keys) header) ∧
      ∀ bytes', rawKey bytes' = rawApiKey → bytes' = bytes := by
  obtain ⟨rfl, rows, hash, enabled, unclaimed, fresh, accepted⟩ := createdAs created
  have stored : row ∈ keys'.rows := by simp [rows]
  refine ⟨?_, ?_, ?_⟩
  · intro header
    rw [authenticate_iff]
    constructor
    · rintro ⟨token, found, parsed, member, digest, _, _, principal⟩
      have here : found = row :=
        KeyedTable.eq_of_key member stored (congrArg ApiKeyPrincipal.id principal)
      subst here
      obtain rfl := token_of_hash resistant (digest.symm.trans hash)
      cases header with
      | none => cases parsed
      | some text => exact ⟨text, rfl, parseBearerToken_eq_some_iff.mp parsed⟩
    · rintro ⟨text, rfl, bearer⟩
      exact ⟨_, row, parseBearerToken_eq_some_iff.mpr bearer, stored, hash, enabled, accepted, rfl⟩
  · intro header different
    unfold authenticate
    cases parsed : parseBearerToken header with
    | none => rfl
    | some token =>
        have other : row.keyHash ≠ hashApiKey sha256 token := by
          intro same
          obtain rfl := token_of_hash resistant (same.symm.trans hash)
          cases header with
          | none => cases parsed
          | some text => exact different text rfl (parseBearerToken_eq_some_iff.mp parsed)
        simp only [findEnabledByHash, selectEnabled_other rows other]
  · intro bytes' same
    exact base64url_injective (List.append_cancel_left same)

def sampleRandomBytes : List UInt8 := (List.range 32).map UInt8.ofNat

def sampleArguments : CreateArguments := ⟨some (JsString.ofString " demo "), none, none⟩

def sampleCreatedRow : ApiKeyRow :=
  newKeyRow sampleKeySha256 (JsString.ofString "demo") 10 (.finite 1) sampleRandomBytes sampleKeyRow.id

theorem ofText_default (value : ℕ) (small : value < 2 ^ 53) :
    JsNumber.ofText (Json.decimalUnits value) = .finite value := by
  simpa using @JsNumber.ofText_decimalUnits value small [] [] (by simp) (by simp)

theorem sampleCreated (keys' : ApiKeyTable)
    (inserted : insertApiKey KeyedTable.empty sampleCreatedRow = some keys') :
    createApiKey sampleKeySha256 KeyedTable.empty sampleArguments sampleRandomBytes
      sampleKeyRow.id = .created keys' sampleRawApiKey sampleCreatedRow := by
  have ten : JsNumber.ofText (JsString.ofString "10") = .finite 10 := by
    rw [← (by decide +kernel : Json.decimalUnits 10 = JsString.ofString "10")]
    exact ofText_default 10 (by norm_num)
  have one : JsNumber.ofText (JsString.ofString "1") = .finite 1 := by
    rw [← (by decide +kernel : Json.decimalUnits 1 = JsString.ofString "1")]
    exact_mod_cast ofText_default 1 (by norm_num)
  have capacity : parseCapacity (JsString.ofString "10") = .ok 10 := by
    rw [parseCapacity, ten]
    decide +kernel
  have refill : parseRefillRate (JsString.ofString "1") = .ok (.finite 1) := by
    rw [parseRefillRate, one]
    decide +kernel
  have name : JsString.trim (JsString.ofString " demo ") = JsString.ofString "demo" := by
    decide +kernel
  have raw : rawKey sampleRandomBytes = sampleRawApiKey := by decide +kernel
  unfold createApiKey
  simp only [sampleArguments, Option.getD_some, Option.getD_none, name, capacity, refill]
  rw [if_neg (by decide), ← sampleCreatedRow, inserted, raw]

theorem created_key_authenticates_sample :
    ∃ keys' row, createApiKey sampleKeySha256 KeyedTable.empty sampleArguments sampleRandomBytes
        sampleKeyRow.id = .created keys' sampleRawApiKey row ∧
      authenticate sampleKeySha256 (some keys') sampleHeader = .ok row.principal := by
  obtain ⟨keys', inserted⟩ :
      ∃ keys', insertApiKey KeyedTable.empty sampleCreatedRow = some keys' := by
    unfold insertApiKey
    rw [if_pos (by decide +kernel)]
    exact ⟨_, rfl⟩
  have created := sampleCreated keys' inserted
  have resistant : NoSecondPreimage sampleKeySha256 sampleRawApiKey := by
    intro bytes same
    by_contra different
    rw [sampleKeySha256, if_neg different] at same
    exact absurd same (by decide +kernel)
  have bearer := parseBearerToken_eq_some_iff.mp
    (by decide +kernel : parseBearerToken sampleHeader = some sampleRawApiKey)
  exact ⟨keys', _, created,
    ((created_key_authenticates created resistant).1 sampleHeader).mpr ⟨_, rfl, bearer⟩⟩

end ModelMux.Auth

/-
API keys: the bearer token of a request and the row that it stands for.

Keys are stored by the digest of their text.  The digest is a parameter; it is
given the UTF-8 bytes of the token.  A query of the database may fail.
-/

import ModelMux.Foundation.KeyedTable
import ModelMux.Json.Utf8
import ModelMux.RateLimit.BucketBounds
import ModelMux.Routes.AppError

namespace ModelMux.Auth

open RateLimit (AcceptedPolicy RateLimitPolicy validatePolicy)
open Routes (AppError)

/-! ### The table -/

/-- A row of `api_keys`.  A column of type `DOUBLE PRECISION` also holds infinities
and `NaN`, which its check takes for positive. -/
structure ApiKeyRow where
  id : JsString
  name : JsString
  keyPrefix : JsString
  keyHash : JsString
  rateLimitCapacity : ℤ
  rateLimitRefillPerSecond : JsNumber
  enabled : Bool
deriving DecidableEq

abbrev ApiKeyTable := KeyedTable ApiKeyRow.id ApiKeyRow.keyHash

structure ApiKeyPrincipal where
  id : JsString
  name : JsString
  keyPrefix : JsString
  rateLimit : RateLimitPolicy
deriving DecidableEq

def ApiKeyRow.principal (row : ApiKeyRow) : ApiKeyPrincipal :=
  { id := row.id
    name := row.name
    keyPrefix := row.keyPrefix
    rateLimit := ⟨.finite row.rateLimitCapacity, row.rateLimitRefillPerSecond⟩ }

/-- What stands behind an error of the guard. -/
inductive GuardCause where
  | queryFailed
  | invalidMetadata (id : JsString)
  | limiter (cause : RateLimit.RateLimiterCause)
  | redisFailed
deriving DecidableEq

abbrev GuardError := AppError GuardCause

def selectEnabled (keys : ApiKeyTable) (keyHash : JsString) : Option ApiKeyRow :=
  keys.select (fun row => row.keyHash = keyHash && row.enabled)

/-- The database is `none` where the query fails. -/
def findEnabledByHash (database : Option ApiKeyTable) (keyHash : JsString) :
    Except GuardError (Option ApiKeyPrincipal) :=
  match database with
  | none => .error (.apiKeyStoreUnavailableError (some .queryFailed))
  | some keys =>
      match selectEnabled keys keyHash with
      | none => .ok none
      | some row =>
          let capacity := JsNumber.finite row.rateLimitCapacity
          let refillPerSecond := row.rateLimitRefillPerSecond
          if !capacity.isInteger || capacity.lessThan (.finite 1) ||
              !refillPerSecond.isFinite || refillPerSecond.atMost (.finite 0) then
            .error (.apiKeyStoreUnavailableError (some (.invalidMetadata row.id)))
          else .ok (some row.principal)

/-! ### Bearer tokens -/

def sameLetter (letter unit : CodeUnit) : Bool := unit = letter || unit + 0x20 = letter

def bearerScheme : JsString := JsString.ofString "bearer"

/-- `header.match(/^Bearer\s+(\S+)$/i)`, with the group of the match. -/
def parseBearerToken : Option JsString → Option JsString
  | none => none
  | some header =>
      let scheme := header.take bearerScheme.length
      let rest := header.drop bearerScheme.length
      let token := rest.dropWhile CodeUnit.isSpace
      if List.Forall₂ (fun letter unit => sameLetter letter unit = true) bearerScheme scheme ∧
          rest.takeWhile CodeUnit.isSpace ≠ [] ∧ token ≠ [] ∧
          token.all (fun unit => !unit.isSpace) = true then some token
      else none

section Digest

variable (sha256 : List UInt8 → JsString)

def hashApiKey (rawApiKey : JsString) : JsString := sha256 (Utf8.encode rawApiKey)

def authenticated : Except GuardError (Option ApiKeyPrincipal) → Except GuardError ApiKeyPrincipal
  | .error error => .error error
  | .ok none => .error .authenticationError
  | .ok (some apiKey) => .ok apiKey

def authenticate (database : Option ApiKeyTable) (authorizationHeader : Option JsString) :
    Except GuardError ApiKeyPrincipal :=
  match parseBearerToken authorizationHeader with
  | none => .error .authenticationError
  | some rawApiKey => authenticated (findEnabledByHash database (hashApiKey sha256 rawApiKey))

end Digest

/-! ### What the store returns -/

variable {keys : ApiKeyTable} {keyHash : JsString}

theorem selectEnabled_eq_some_iff {row : ApiKeyRow} :
    selectEnabled keys keyHash = some row ↔
      row ∈ keys.rows ∧ row.keyHash = keyHash ∧ row.enabled = true := by
  constructor
  · intro found
    obtain ⟨member, holds⟩ := KeyedTable.select_mem found
    simp only [Bool.and_eq_true, decide_eq_true_eq] at holds
    exact ⟨member, holds⟩
  · rintro ⟨member, hash, enabled⟩
    cases found : selectEnabled keys keyHash with
    | none =>
        have absent := KeyedTable.select_none found row member
        simp [hash, enabled] at absent
    | some other =>
        obtain ⟨otherMember, holds⟩ := KeyedTable.select_mem found
        simp only [Bool.and_eq_true, decide_eq_true_eq] at holds
        rw [KeyedTable.eq_of_unique otherMember member (holds.1.trans hash.symm)]

/-- A principal is an enabled row whose limits the limiter accepts. -/
theorem findEnabledByHash_eq_some_iff {apiKey : ApiKeyPrincipal} :
    findEnabledByHash (some keys) keyHash = .ok (some apiKey) ↔
      ∃ row, selectEnabled keys keyHash = some row ∧ validatePolicy apiKey.rateLimit = .ok () ∧
        row.principal = apiKey := by
  cases found : selectEnabled keys keyHash with
  | none => simp [findEnabledByHash, found]
  | some row =>
      simp only [findEnabledByHash, found]
      split
      · rename_i rejected
        constructor
        · intro impossible
          cases impossible
        · rintro ⟨other, same, accepted, rfl⟩
          cases same
          rw [validatePolicy, ApiKeyRow.principal, if_pos rejected] at accepted
          cases accepted
      · rename_i passed
        constructor
        · intro returned
          cases returned
          refine ⟨row, rfl, ?_, rfl⟩
          rw [validatePolicy, ApiKeyRow.principal, if_neg passed]
        · rintro ⟨other, same, _, rfl⟩
          cases same
          rfl

theorem findEnabledByHash_error {error : GuardError}
    (failed : findEnabledByHash (some keys) keyHash = .error error) :
    ∃ row, selectEnabled keys keyHash = some row ∧ validatePolicy row.principal.rateLimit ≠ .ok () ∧
      error = .apiKeyStoreUnavailableError (some (.invalidMetadata row.id)) := by
  cases found : selectEnabled keys keyHash with
  | none => simp [findEnabledByHash, found] at failed
  | some row =>
      simp only [findEnabledByHash, found] at failed
      split at failed
      · rename_i rejected
        cases failed
        refine ⟨row, rfl, ?_, rfl⟩
        rw [validatePolicy, ApiKeyRow.principal, if_pos rejected]
        simp
      · cases failed

/-! ### What the pattern matches -/

/-- The header consists of the scheme, in any case, white space and the token. -/
structure BearerHeader (header token : JsString) : Prop where
  parts : ∃ scheme spaces, header = scheme ++ spaces ++ token ∧
    List.Forall₂ (fun letter unit => sameLetter letter unit = true) bearerScheme scheme ∧
    spaces ≠ [] ∧ ∀ unit ∈ spaces, unit.isSpace = true
  nonempty : token ≠ []
  solid : ∀ unit ∈ token, unit.isSpace = false

theorem parseBearerToken_eq_some_iff {header token : JsString} :
    parseBearerToken (some header) = some token ↔ BearerHeader header token := by
  unfold parseBearerToken
  dsimp only
  constructor
  · intro matched
    split at matched
    · rename_i holds
      obtain ⟨letters, spaced, nonempty, solid⟩ := holds
      cases matched
      refine ⟨⟨_, _, ?_, letters, spaced, ?_⟩, nonempty, ?_⟩
      · rw [List.append_assoc, List.takeWhile_append_dropWhile, List.take_append_drop]
      · intro unit member
        exact List.mem_takeWhile_imp member
      · intro unit member
        simpa using List.all_eq_true.mp solid unit member
    · cases matched
  · rintro ⟨⟨scheme, spaces, rfl, letters, spaced, blank⟩, nonempty, solid⟩
    have length : bearerScheme.length = scheme.length := letters.length_eq
    have before : (scheme ++ spaces ++ token).take bearerScheme.length = scheme := by
      rw [length, List.append_assoc, List.take_left]
    have after : (scheme ++ spaces ++ token).drop bearerScheme.length = spaces ++ token := by
      rw [length, List.append_assoc, List.drop_left]
    have stops : token.takeWhile CodeUnit.isSpace = [] ∧ token.dropWhile CodeUnit.isSpace = token := by
      cases token with
      | nil => exact ⟨rfl, rfl⟩
      | cons unit rest => simp [solid unit]
    rw [before, after, List.takeWhile_append_of_pos blank, List.dropWhile_append_of_pos blank,
      stops.1, stops.2, List.append_nil, if_pos]
    exact ⟨letters, spaced, nonempty, by simpa using solid⟩

end ModelMux.Auth

import Jianmen.Library.Actions
import Jianmen.Library.Base64
import Jianmen.Library.Text
import Jianmen.DBProxy.Sink

/-!
# Login captchas

A solved captcha is good for one login.  A call of `Verify` reads the clock, has the solution
checked and then takes the lock, under which used signatures are purged, looked up and entered.
The purge goes by the time that was read before the lock was taken, and a call may wait for the
lock for any time.
-/

namespace Jianmen.Login

open List

open DBProxy (Bytes ascii)

structure Payload where
  salt : Bytes
  signature : Bytes
  deriving DecidableEq

/-- The JSON decoder and the ALTCHA library. -/
structure Altcha where
  unmarshal : Bytes → Option Payload
  /-- The parameters that a payload carries. -/
  extractParams : Payload → List (Bytes × Bytes)
  /-- Whether a solution is valid at a time; the check itself may fail. -/
  verifySolutionSafe : Bytes → Bytes → ℤ → Option Bool

inductive CaptchaError where
  | missing
  | invalid (detail : String)
  | expired
  | replayed
  deriving DecidableEq

/-- A solution that is not expired. -/
structure Solution where
  decoded : Bytes
  signature : Bytes
  expiresAt : ℤ
  deriving DecidableEq

variable (altcha : Altcha) (secret : Bytes)

/-- Base64 with or without padding. -/
def decodeLoginCaptchaPayload (payload : Bytes) : Option Bytes :=
  match Base64.decodeString ⟨true, false⟩ payload with
  | some decoded => some decoded
  | none => Base64.decodeString ⟨false, false⟩ payload

/-- `time.Unix`, in nanoseconds.  Seconds are kept in 64 bits and counted from the year 1. -/
def unixTime (seconds : ℤ) : ℤ :=
  ((seconds + 62135596800).bmod 18446744073709551616 - 62135596800) * 1000000000

def loginCaptchaExpiresAt (payload : Payload) : Option ℤ :=
  match ((altcha.extractParams payload).lookup (ascii "expires")).getD [] with
  | [] => none
  | raw => (parseInt64 raw).map unixTime

/-- What a call does with the time it has read. -/
def readPayload (payload : Bytes) (now : ℤ) : Except CaptchaError Solution :=
  if secret = [] then .error (.invalid "")
  else if payload = [] then .error .missing
  else if 16 * 1024 < payload.length then .error (.invalid "")
  else
    match decodeLoginCaptchaPayload payload with
    | none => .error (.invalid "decode payload")
    | some decoded =>
      match altcha.unmarshal decoded with
      | none => .error (.invalid "parse payload")
      | some parsed =>
        if parsed.signature = [] then .error (.invalid "parse payload")
        else
          match loginCaptchaExpiresAt altcha parsed with
          | none => .error (.invalid "parse expiry")
          | some expiresAt =>
            if expiresAt ≤ now then .error .expired
            else .ok ⟨decoded, parsed.signature, expiresAt⟩

def cleanupLocked (used : List (Bytes × ℤ)) (now : ℤ) : List (Bytes × ℤ) :=
  used.filter fun entry => now < entry.2

/-- Where a call of `Verify` stands. -/
inductive Call where
  | verifying (solution : Solution) (now : ℤ)
  | locking (solution : Solution) (now : ℤ)
  | failed (error : CaptchaError)
  | succeeded (solution : Solution)
  deriving DecidableEq

/-- A call that has returned success for a signature. -/
def Call.succeededWith (signature : Bytes) : Call → Bool
  | .succeeded solution => solution.signature = signature
  | _ => false

/-- The captcha, the time in nanoseconds, and the calls that were made. -/
structure LoginCaptcha where
  clock : ℤ := 0
  used : List (Bytes × ℤ) := []
  calls : List Call := []
  deriving DecidableEq

inductive Action where
  | tick (delay : ℕ)
  | call (payload : Bytes)
  | verify (number : ℕ)
  | lock (number : ℕ)
  deriving DecidableEq

namespace LoginCaptcha

def step (c : LoginCaptcha) : Action → Option LoginCaptcha
  | .tick delay => some { c with clock := c.clock + delay }
  | .call payload =>
    let call := match readPayload altcha secret payload c.clock with
      | .error error => Call.failed error
      | .ok solution => .verifying solution c.clock
    some { c with calls := c.calls ++ [call] }
  | .verify number =>
    match c.calls[number]? with
    | some (.verifying solution now) =>
      let call := match altcha.verifySolutionSafe solution.decoded secret c.clock with
        | none => Call.failed (.invalid "verify payload")
        | some false => .failed (.invalid "")
        | some true => .locking solution now
      some { c with calls := c.calls.set number call }
    | _ => none
  | .lock number =>
    match c.calls[number]? with
    | some (.locking solution now) =>
      let used := cleanupLocked c.used now
      if used.any (·.1 = solution.signature) then
        some { c with used := used, calls := c.calls.set number (.failed .replayed) }
      else
        some
          { c with
            used := (solution.signature, solution.expiresAt) :: used
            calls := c.calls.set number (.succeeded solution) }
    | _ => none

/-- Nobody takes the lock after the solution has expired. -/
def InTime (c : LoginCaptcha) : Action → Prop
  | .lock number => ∀ solution now, c.calls[number]? = some (.locking solution now) →
    c.clock < solution.expiresAt
  | _ => True

instance (c : LoginCaptcha) : DecidablePred c.InTime
  | .lock number =>
    match current : c.calls[number]? with
    | some (.locking solution _) => decidable_of_iff (c.clock < solution.expiresAt) (by
        simp only [InTime, current, Option.some.injEq, Call.locking.injEq]
        exact ⟨by rintro alive _ _ ⟨rfl, -⟩; exact alive, fun inTime => inTime _ _ ⟨rfl, rfl⟩⟩)
    | none | some (.verifying _ _) | some (.failed _) | some (.succeeded _) =>
      isTrue (by simp [InTime, current])
  | .tick _ | .call _ | .verify _ => isTrue trivial

/-- A solution that was read from a payload. -/
def Read (solution : Solution) : Prop :=
  ∃ payload now, readPayload altcha secret payload now = .ok solution

/-- A solution that was read from a payload and found valid. -/
def Genuine (solution : Solution) : Prop :=
  Read altcha secret solution ∧
    ∃ time, altcha.verifySolutionSafe solution.decoded secret time = some true

/-- What is known of a call: a solution that was accepted is in the table, or it has expired. -/
def Known (c : LoginCaptcha) : Call → Prop
  | .verifying solution now => Read altcha secret solution ∧ now ≤ c.clock
  | .locking solution now => Genuine altcha secret solution ∧ now ≤ c.clock
  | .failed _ => True
  | .succeeded solution => Genuine altcha secret solution ∧
    ((solution.signature, solution.expiresAt) ∈ c.used ∨ solution.expiresAt ≤ c.clock)

/-- Every call is known, and at most one of them has succeeded with a signature. -/
structure Single (c : LoginCaptcha) : Prop where
  known : ∀ call ∈ c.calls, c.Known altcha secret call
  single : ∀ signature, c.calls.countP (Call.succeededWith signature) ≤ 1

/-- The library signs the expiry. -/
def Binding : Prop :=
  ∀ first second, Genuine altcha secret first → Genuine altcha secret second →
    first.signature = second.signature → first.expiresAt = second.expiresAt

variable {altcha secret} {c c' : LoginCaptcha} {call old : Call} {number : ℕ}

/-- Time passes, and what leaves the table has expired. -/
theorem Known.later (known : c.Known altcha secret call) (later : c.clock ≤ c'.clock)
    (kept : ∀ entry ∈ c.used, entry ∈ c'.used ∨ entry.2 ≤ c'.clock) :
    c'.Known altcha secret call := by
  cases call with
  | verifying solution now => exact ⟨known.1, Int.le_trans known.2 later⟩
  | locking solution now => exact ⟨known.1, Int.le_trans known.2 later⟩
  | failed => trivial
  | succeeded solution =>
    refine ⟨known.1, ?_⟩
    rcases known.2 with listed | expired
    · exact kept _ listed
    · exact .inr (Int.le_trans expired later)

/-- A call that had not succeeded goes on, and succeeds only where none has. -/
theorem Single.proceed (holds : c.Single altcha secret) (current : c.calls[number]? = some old)
    (going : ∀ signature, old.succeededWith signature = false) {used : List (Bytes × ℤ)}
    (kept : ∀ entry ∈ c.used, entry ∈ used ∨ entry.2 ≤ c.clock)
    (known : { c with used := used }.Known altcha secret call)
    (first : ∀ signature, call.succeededWith signature →
      ∀ other ∈ c.calls, other.succeededWith signature = false) :
    Single altcha secret { c with used := used, calls := c.calls.set number call } := by
  constructor
  · intro other member
    rcases mem_or_eq_of_mem_set member with before | rfl
    · exact (holds.known other before).later (Int.le_refl _) kept
    · exact known
  · intro signature
    obtain ⟨inside, here⟩ := List.getElem?_eq_some_iff.mp current
    have before := holds.single signature
    rw [countP_set inside, here, going signature, if_neg Bool.false_ne_true]
    split
    · rename_i succeeds
      have none := countP_eq_zero.mpr fun other member =>
        Bool.eq_false_iff.mp (first signature succeeds other member)
      omega
    · exact before

theorem Single.step (binding : Binding altcha secret) (holds : c.Single altcha secret)
    {action : Action} (inTime : c.InTime action)
    (taken : c.step altcha secret action = some c') : c'.Single altcha secret := by
  cases action with
  | tick =>
    cases taken
    exact ⟨fun call member => (holds.known call member).later (by simp only; omega)
      fun entry listed => .inl listed, holds.single⟩
  | call =>
    cases taken
    constructor
    · intro call member
      rcases mem_append.mp member with before | new
      · exact holds.known call before
      · obtain rfl := mem_singleton.mp new
        split
        · trivial
        · rename_i solution read
          exact ⟨⟨_, _, read⟩, Int.le_refl _⟩
    · intro signature
      rw [countP_append, countP_singleton, if_neg (by split <;> simp [Call.succeededWith])]
      exact holds.single signature
  | verify number =>
    simp only [LoginCaptcha.step] at taken
    split at taken
    · rename_i solution now current
      cases taken
      have known := holds.known _ (mem_of_getElem? current)
      refine holds.proceed current (fun _ => rfl) (fun entry listed => .inl listed) ?_ ?_
      · split
        · trivial
        · trivial
        · rename_i valid
          exact ⟨⟨known.1, _, valid⟩, known.2⟩
      · split <;> simp [Call.succeededWith]
    · cases taken
  | lock number =>
    simp only [LoginCaptcha.step] at taken
    split at taken
    · rename_i solution now current
      obtain ⟨genuine, _⟩ := holds.known _ (mem_of_getElem? current)
      have alive := inTime solution now current
      have kept : ∀ entry ∈ c.used, entry ∈ cleanupLocked c.used now ∨ entry.2 ≤ c.clock := by
        intro entry listed
        by_cases fresh : now < entry.2
        · exact .inl (mem_filter.mpr ⟨listed, by simpa using fresh⟩)
        · exact .inr (by omega)
      split at taken
      · cases taken
        exact holds.proceed current (fun _ => rfl) kept trivial (by simp [Call.succeededWith])
      · rename_i unused
        cases taken
        refine holds.proceed current (fun _ => rfl)
          (fun entry listed => (kept entry listed).imp_left (mem_cons_of_mem _))
          ⟨genuine, .inl mem_cons_self⟩ ?_
        intro signature succeeds other member
        by_contra before
        cases other with
        | succeeded earlier =>
          have same : earlier.signature = solution.signature := by
            simp only [Call.succeededWith, Bool.not_eq_false, decide_eq_true_eq] at before succeeds
            exact before.trans succeeds.symm
          obtain ⟨earlier_genuine, listed⟩ := holds.known _ member
          rw [same, binding earlier solution earlier_genuine genuine same] at listed
          have purged := kept _ (listed.resolve_right (by omega))
          exact unused (any_eq_true.mpr ⟨_, purged.resolve_right (by omega), by simp⟩)
        | _ => exact before rfl
    · cases taken

/-- A signature lets one call in, if every call takes the lock before its solution expires. -/
theorem captcha_single_use (altcha : Altcha) (secret : Bytes) (binding : Binding altcha secret)
    (start : ℤ) {actions : List Action} {final : LoginCaptcha}
    (inTime : Actions.Permitted (step altcha secret) InTime { clock := start } actions)
    (execution : Actions.run (step altcha secret) { clock := start } actions = some final)
    (signature : Bytes) : final.calls.countP (Call.succeededWith signature) ≤ 1 := by
  have fresh : Single altcha secret { clock := start } := ⟨by simp, by simp⟩
  exact (Actions.run_invariant (fun _ _ _ holds permits taken => holds.step binding permits taken)
    fresh inTime execution).single signature

/-- A solved challenge. -/
structure Solved where
  payload : Bytes
  json : Bytes
  parsed : Payload
  expires : Bytes

def early : Solved where
  payload :=
    ["eyJhbGdvcml0aG0iOiJTSEEtMjU2IiwiY2hhbGxlbm", "dlIjoiMzE2NmY1ZjhmZTBjOTc4NjllOWYyNTBlZDU0",
      "OGYyM2NkNmFjZjRjZjBkMThmN2EzZTJkNDFlYzFmMz", "I5Y2IxOCIsIm51bWJlciI6NzQyMSwic2FsdCI6IjVk",
      "MWY3YTljMGIzZTI0Njg/ZXhwaXJlcz0xNzAwMDAwMT", "IwIiwic2lnbmF0dXJlIjoiZTBhM2FkMjRhMDMxODE5",
      "ZTgzYzZhZDY3NTY0MzIyMzRmZWNhMTFhZTQwZjkwMj", "QwNmFjNmNmNWM0ZjI0MWNjOCJ9"].flatMap ascii
  json :=
    ["\x7b\"algorithm\":\"SHA-256\",\"challenge\":\"", "3166f5f8fe0c97869e9f250ed548f23cd6ac",
      "f4cf0d18f7a3e2d41ec1f329cb18\",\"numbe", "r\":7421,\"salt\":\"5d1f7a9c0b3e2468?exp",
      "ires=1700000120\",\"signature\":\"e0a3ad", "24a031819e83c6ad6756432234feca11ae40",
      "f902406ac6cf5c4f241cc8\"\x7d"].flatMap ascii
  parsed :=
    { salt := ascii "5d1f7a9c0b3e2468?expires=1700000120"
      signature := ascii "e0a3ad24a031819e83c6ad6756432234feca11ae40f902406ac6cf5c4f241cc8" }
  expires := ascii "1700000120"

def late : Solved where
  payload :=
    ["eyJhbGdvcml0aG0iOiJTSEEtMjU2IiwiY2hhbGxlbm", "dlIjoiMmEzMjZmZDhjZjA2NjRhOWZmY2RlZTg2YTNk",
      "ODE2YmY4Mjk0ZDUyM2VmYTgxOGU4YWZkOTg5YmQxMD", "M0YTNmYSIsIm51bWJlciI6MTg5Mywic2FsdCI6ImMy",
      "N2U5MGIxNGZhOGQ2MzU/ZXhwaXJlcz0xNzAwMDAwMz", "AwIiwic2lnbmF0dXJlIjoiYWZlYzIyOGE5NWU0N2Uw",
      "ZjI5MzBiNDA2MzFlZjQ4YTgwZDcyZTZiMDEzMjMwZT", "dmMDQxYjc0YWNmZmQ3MjkyMyJ9"].flatMap ascii
  json :=
    ["\x7b\"algorithm\":\"SHA-256\",\"challenge\":\"", "2a326fd8cf0664a9ffcdee86a3d816bf8294",
      "d523efa818e8afd989bd1034a3fa\",\"numbe", "r\":1893,\"salt\":\"c27e90b14fa8d635?exp",
      "ires=1700000300\",\"signature\":\"afec22", "8a95e47e0f2930b40631ef48a80d72e6b013",
      "230e7f041b74acffd72923\"\x7d"].flatMap ascii
  parsed :=
    { salt := ascii "c27e90b14fa8d635?expires=1700000300"
      signature := ascii "afec228a95e47e0f2930b40631ef48a80d72e6b013230e7f041b74acffd72923" }
  expires := ascii "1700000300"

def testSecret : Bytes :=
  ascii "test-secret"

/-- What the library says about the two challenges. -/
def solved : Altcha where
  unmarshal decoded := ([early, late].find? (·.json = decoded)).map Solved.parsed
  extractParams parsed := match [early, late].find? (·.parsed = parsed) with
    | some challenge => [(ascii "expires", challenge.expires)]
    | none => []
  verifySolutionSafe decoded secret time := some
    (secret = testSecret && [early, late].any fun challenge => challenge.json = decoded &&
      ((parseInt64 challenge.expires).map unixTime).any (time < ·))

theorem solved_binding : Binding solved testSecret := by
  have read : ∀ {solution}, Read solved testSecret solution → ∃ challenge ∈ [early, late],
      solution.signature = challenge.parsed.signature ∧
        loginCaptchaExpiresAt solved challenge.parsed = some solution.expiresAt := by
    rintro solution ⟨payload, now, read⟩
    unfold readPayload at read
    repeat' split at read
    all_goals cases read
    rename_i unmarshalled _ _ _ expires _
    simp only [solved, Option.map_eq_some_iff] at unmarshalled
    obtain ⟨challenge, found, rfl⟩ := unmarshalled
    exact ⟨challenge, mem_of_find?_eq_some found, rfl, expires⟩
  intro first second first_genuine second_genuine same
  obtain ⟨one, one_listed, one_signature, one_expires⟩ := read first_genuine.1
  obtain ⟨other, other_listed, other_signature, other_expires⟩ := read second_genuine.1
  have signed : ∀ one ∈ [early, late], ∀ other ∈ [early, late],
      one.parsed.signature = other.parsed.signature →
        loginCaptchaExpiresAt solved one.parsed = loginCaptchaExpiresAt solved other.parsed := by
    decide +kernel
  have expires := signed one one_listed other other_listed
    (one_signature.symm.trans (same.trans other_signature))
  rw [one_expires, other_expires] at expires
  exact Option.some.inj expires

/-- The time at which the two challenges were made. -/
def madeAt : ℤ :=
  1700000000000000000

def earlySolution : Solution :=
  ⟨early.json, early.parsed.signature, 1700000120000000000⟩

theorem captcha_single_use_twice :
    [Call.succeeded earlySolution, .failed .replayed].countP
      (Call.succeededWith early.parsed.signature) ≤ 1 := by
  have execution : Actions.run (step solved testSecret) { clock := madeAt }
      [.call early.payload, .verify 0, .lock 0, .call early.payload, .verify 1, .lock 1] =
        some { clock := madeAt, used := [(early.parsed.signature, earlySolution.expiresAt)],
               calls := [.succeeded earlySolution, .failed .replayed] } := by
    decide +kernel
  exact captcha_single_use solved testSecret solved_binding madeAt (by decide +kernel) execution
    early.parsed.signature

/-- While a call waits for the lock, another one uses its solution, and a third one purges it. -/
theorem captcha_used_twice : (Actions.run (step solved testSecret) { clock := madeAt }
    [.call early.payload, .verify 0, .call early.payload, .verify 1, .lock 1, .tick 120000000000,
      .call late.payload, .verify 2, .lock 2, .lock 0]).map (fun final =>
        final.calls.countP (Call.succeededWith early.parsed.signature)) = some 2 := by
  decide +kernel

end LoginCaptcha
end Jianmen.Login

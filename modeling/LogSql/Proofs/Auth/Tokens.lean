import LogSql.Auth.Service
import LogSql.Proofs.Json.Documents

/-! Tokens that are issued and checked. The parts of a token are written in letters, among which there is no
full stop, and read as what they were. What a token claims is found again in it, whatever its subject is, as
far as its times can be read; and it is accepted with the secret that it is signed with just while its
claims hold. -/
namespace LogSql.Auth

open Text (byte cleaned)
open Json (ReadAs MembersAs)

/-! ### Letters -/

theorem letterMod (n : Nat) : letter n = letter (n % 64) := by rw [letter,letter,Nat.mod_mod]

theorem letterRead (n : Nat) : letterValue (letter n) = some (n % 64) := by
  rw [letterMod]
  exact (show ∀ k : Fin 64, letterValue (letter k) = some k.val by decide +kernel)
    ⟨n % 64,Nat.mod_lt n (by decide)⟩

/-- Neither a line break nor a full stop is a letter. -/
theorem letterApart (n : Nat) : letter n ≠ 10 ∧ letter n ≠ 13 ∧ letter n ≠ byte '.' := by
  rw [letterMod]
  exact (show ∀ k : Fin 64, letter k ≠ 10 ∧ letter k ≠ 13 ∧ letter k ≠ byte '.' by decide +kernel)
    ⟨n % 64,Nat.mod_lt n (by decide)⟩

theorem encodedLetters (t : Text) : ∀ b ∈ encode64 t, ∃ n, b = letter n := by
  induction t using encode64.induct with
  | case1 a b c rest ih =>
    simp only [encode64,List.forall_mem_cons]
    exact ⟨⟨_,rfl⟩,⟨_,rfl⟩,⟨_,rfl⟩,⟨_,rfl⟩,ih⟩
  | case2 a b =>
    simp only [encode64,List.forall_mem_cons]
    exact ⟨⟨_,rfl⟩,⟨_,rfl⟩,⟨_,rfl⟩,by simp⟩
  | case3 a =>
    simp only [encode64,List.forall_mem_cons]
    exact ⟨⟨_,rfl⟩,⟨_,rfl⟩,by simp⟩
  | case4 => simp [encode64]

/-- The pieces of a text between full stops can be told apart when they are written in letters. -/
theorem encodedApart (t : Text) : byte '.' ∉ encode64 t := by
  intro held
  obtain ⟨n,same⟩ := encodedLetters t _ held
  exact (letterApart n).2.2 same.symm

/-! ### Bytes -/

theorem byteLast {n : Nat} {b : UInt8} (same : n % 256 = b.toNat) : UInt8.ofNat n = b :=
  UInt8.toNat_inj.mp (by rw [UInt8.toNat_ofNat',same])

theorem fourDigits {n : Nat} (small : n < 16777216) :
    n / 262144 % 64 * 262144 + n / 4096 % 64 * 4096 + n / 64 % 64 * 64 + n % 64 = n := by omega

theorem threeDigits {n : Nat} (small : n < 262144) : n / 4096 % 64 * 4096 + n / 64 % 64 * 64 + n % 64 = n := by
  omega

/-- The numbers of the letters of a text stand for its bytes. -/
theorem lettersRead (t : Text) :
    ∃ values, (encode64 t).mapM letterValue = some values ∧ bytesOfValues values = some t := by
  induction t using encode64.induct with
  | case1 a b c rest ih =>
    obtain ⟨values,read,bytes⟩ := ih
    obtain ⟨first,second,third⟩ := And.intro a.toNat_lt (And.intro b.toNat_lt c.toNat_lt)
    simp only [encode64]
    generalize size : a.toNat * 65536 + b.toNat * 256 + c.toNat = n
    refine ⟨n / 262144 % 64 :: n / 4096 % 64 :: n / 64 % 64 :: n % 64 :: values,?_,?_⟩
    · simp [letterRead,read]
    · rw [bytesOfValues,fourDigits (by omega),bytes,byteLast (n := n / 65536) (b := a) (by omega),
        byteLast (n := n / 256) (b := b) (by omega),byteLast (n := n) (b := c) (by omega)]
      rfl
  | case2 a b =>
    obtain ⟨first,second⟩ := And.intro a.toNat_lt b.toNat_lt
    simp only [encode64]
    generalize size : a.toNat * 1024 + b.toNat * 4 = n
    refine ⟨[n / 4096 % 64, n / 64 % 64, n % 64],by simp [letterRead],?_⟩
    rw [bytesOfValues,threeDigits (by omega),byteLast (n := n / 1024) (b := a) (by omega),
      byteLast (n := n / 4) (b := b) (by omega)]
  | case3 a =>
    have first := a.toNat_lt
    simp only [encode64]
    refine ⟨[a.toNat / 4 % 64, a.toNat * 16 % 64],by simp [letterRead],?_⟩
    rw [bytesOfValues,byteLast (b := a) (by omega)]
  | case4 => exact ⟨[],rfl,rfl⟩

/-- A text that is written in letters is read as the same text. -/
theorem encodedRead (t : Text) : decode64? (encode64 t) = some t := by
  have kept : ((encode64 t).filter fun b => b ≠ 10 ∧ b ≠ 13) = encode64 t := by
    refine List.filter_eq_self.mpr fun b held => ?_
    obtain ⟨n,rfl⟩ := encodedLetters t b held
    exact decide_eq_true ⟨(letterApart n).1,(letterApart n).2.1⟩
  obtain ⟨values,read,bytes⟩ := lettersRead t
  rw [decode64?,kept,read]
  exact bytes

/-! ### Claims -/

namespace Claims

/-- A time in seconds as a document gives it back: some instants far away cannot be read. -/
def stamp (n : Int) : Option Int := (Number.readFloat (Text.ofInt n)).toOption.map Binary64.toInt64

theorem stampExact {n : Int} (small : n.natAbs ≤ 2 ^ 53) : stamp n = some n := by
  obtain ⟨x,read,value⟩ := Number.integerExact small
  rw [stamp,read]
  exact congrArg some value

/-- The claims as a document gives them back. -/
def returned (c : Claims) : Option Claims := do
  let expires ← c.expires.mapM stamp
  let notBefore ← c.notBefore.mapM stamp
  let issuedAt ← c.issuedAt.mapM stamp
  some ⟨cleaned c.issuer, cleaned c.subject, expires, notBefore, issuedAt⟩

section Members

variable (c : Claims) (v : Json)

theorem setIssuer : c.setMember "iss" v =
    (Json.readText c.issuer v).map fun t => { c with issuer := t } := rfl

theorem setSubject : c.setMember "sub" v =
    (Json.readText c.subject v).map fun t => { c with subject := t } := rfl

theorem setExpires : c.setMember "exp" v = (time? v).map fun t => { c with expires := t } := rfl

theorem setNotBefore : c.setMember "nbf" v = (time? v).map fun t => { c with notBefore := t } := rfl

theorem setIssuedAt : c.setMember "iat" v = (time? v).map fun t => { c with issuedAt := t } := rfl

end Members

theorem timeRead (n : Int) : time? (Json.int n) = (stamp n).map some := by
  show (Number.readFloat (Text.ofInt n)).toOption.map _ = _
  rw [stamp,Option.map_map]
  rfl

/-- A time is a member where there is one. -/
def timeMember (name : Text) (t : Option Int) : List (Text × Json) :=
  (t.map fun n => (name, Json.int n)).toList

/-- Reading a member that there may be sets its time. -/
theorem timeSet {c : Claims} {name : Text} {set : Option Int → Claims}
    (each : ∀ v, c.setMember name v = (time? v).map set) (blank : set none = c) (t : Option Int) :
    (timeMember name t).foldlM (fun c m => c.setMember m.1 m.2) c = (t.mapM stamp).map set := by
  cases t with
  | none => exact congrArg some blank.symm
  | some n =>
    have read : c.setMember name (Json.int n) = ((some n).mapM stamp).map set := by
      rw [each,timeRead]
      rfl
    simpa [timeMember] using read

/-- The members of the document of claims. -/
def members (c : Claims) : List (Text × Json) :=
  ("iss", .string c.issuer) :: ("sub", .string c.subject) :: (timeMember "exp" c.expires ++
    timeMember "nbf" c.notBefore ++ timeMember "iat" c.issuedAt)

/-- The claims with nothing but characters in their texts. -/
def legible (c : Claims) : Claims := { c with issuer := cleaned c.issuer, subject := cleaned c.subject }

theorem membersRead (c : Claims) :
    c.legible.members.foldlM (fun (c : Claims) m => c.setMember m.1 m.2) {} = c.returned := by
  obtain ⟨issuer,subject,expires,notBefore,issuedAt⟩ := c
  simp only [members,legible,List.foldlM_cons,List.foldlM_append,setIssuer,setSubject,Json.readText,
    Option.map_some,Option.bind_eq_bind,Option.bind_some]
  rw [timeSet (setExpires _) rfl,returned]
  cases expires.mapM stamp with
  | none => rfl
  | some expires =>
    simp only [Option.map_some,Option.bind_eq_bind,Option.bind_some]
    rw [timeSet (setNotBefore _) rfl]
    cases notBefore.mapM stamp with
    | none => rfl
    | some notBefore =>
      simp only [Option.map_some,Option.bind_some]
      rw [timeSet (setIssuedAt _) rfl]
      cases issuedAt.mapM stamp <;> rfl

theorem timeMembers (depth : Nat) {name : Text} (known : cleaned name = name) (t : Option Int) :
    MembersAs (depth + 1) (timeMember name t) (timeMember name t) := by
  cases t with
  | none => exact .nil
  | some n => exact .cons ⟨known.symm,Json.intValue depth n⟩ .nil

theorem membersValue (depth : Nat) (c : Claims) : MembersAs (depth + 1) c.members c.legible.members := by
  have issuer : ("iss" : Text) = cleaned "iss" := rfl
  have subject : ("sub" : Text) = cleaned "sub" := rfl
  refine .cons ⟨issuer,Json.stringValue depth c.issuer⟩ ?_
  refine .cons ⟨subject,Json.stringValue depth c.subject⟩ ?_
  have expires := timeMembers depth (show cleaned "exp" = "exp" from rfl) c.expires
  have notBefore := timeMembers depth (show cleaned "nbf" = "nbf" from rfl) c.notBefore
  have issuedAt := timeMembers depth (show cleaned "iat" = "iat" from rfl) c.issuedAt
  exact List.rel_append (List.rel_append expires notBefore) issuedAt

/-- What the document of claims gives back. -/
theorem claimsRead (c : Claims) : (Json.read? c.toJson.text).bind ofJson? = c.returned := by
  have document : c.toJson = .object c.members := rfl
  rw [document,Json.documentRead (Json.objectValue (membersValue _ c))]
  exact membersRead c

/-- Times of the size of the mantissa at most, which covers more than two hundred million years. -/
structure Near (c : Claims) : Prop where
  expires : ∀ n ∈ c.expires, n.natAbs ≤ 2 ^ 53
  notBefore : ∀ n ∈ c.notBefore, n.natAbs ≤ 2 ^ 53
  issuedAt : ∀ n ∈ c.issuedAt, n.natAbs ≤ 2 ^ 53

theorem stampsExact {t : Option Int} (near : ∀ n ∈ t, n.natAbs ≤ 2 ^ 53) : t.mapM stamp = some t := by
  cases t with
  | none => rfl
  | some n =>
    have exact := stampExact (near n rfl)
    simp [exact]

theorem returnedNear {c : Claims} (near : c.Near) : c.returned = some c.legible := by
  rw [returned,stampsExact near.expires,stampsExact near.notBefore,stampsExact near.issuedAt]
  rfl

/-- Whatever becomes of the times, there is an end just where there was one. -/
theorem returnedParts {c d : Claims} (read : c.returned = some d) :
    d.subject = cleaned c.subject ∧ (d.expires.isSome ↔ c.expires.isSome) := by
  obtain ⟨expires,ends,read⟩ := Option.bind_eq_some_iff.mp read
  obtain ⟨_,_,read⟩ := Option.bind_eq_some_iff.mp read
  obtain ⟨_,_,read⟩ := Option.bind_eq_some_iff.mp read
  cases read
  refine ⟨rfl,?_⟩
  cases given : c.expires with
  | none =>
    rw [given] at ends
    cases ends
    rfl
  | some n =>
    rw [given] at ends
    obtain ⟨m,_,rfl⟩ := Option.map_eq_some_iff.mp (show (stamp n).map some = some expires from ends)
    simp

end Claims

/-! ### Tokens -/

namespace Service

variable {s verifier : Service} {now later : Instant} {subject token : Text}

theorem headerRead : Json.read? header.text = some header := by
  have own {t : Text} (known : cleaned t = t) : ReadAs Json.maxDepth (.string t) (.string t) := by
    have value := Json.stringValue 9999 t
    rwa [known] at value
  exact Json.documentRead (Json.objectValue (.cons ⟨rfl,own rfl⟩ (.cons ⟨rfl,own rfl⟩ .nil)))

/-- What is signed of a token. -/
def body (s : Service) (now : Instant) (subject : Text) : Text :=
  encode64 header.text ++ "." ++ encode64 (s.claimsFor now subject).toJson.text

theorem mintParts (minted : s.mint now subject = .ok token) : subject ≠ [] ∧
    Text.splitByte (byte '.') token = [encode64 header.text,
      encode64 (s.claimsFor now subject).toJson.text, encode64 (s.sign (s.body now subject))] := by
  have stop : Text.ofString "." = [byte '.'] := by decide
  rw [mint] at minted
  split at minted
  · contradiction
  · rename_i filled
    obtain rfl : s.body now subject ++ "." ++ encode64 (s.sign (s.body now subject)) = token :=
      Except.ok.inj minted
    generalize s.sign (s.body now subject) = signature
    refine ⟨by simpa using filled,?_⟩
    rw [body,stop,List.append_assoc,List.append_assoc,List.append_assoc,List.singleton_append,
      List.singleton_append,Text.splitFront (encodedApart _),Text.splitFront (encodedApart _),
      Text.splitAbsent (encodedApart _)]

/-- The claims of a token are those that it is issued with. -/
theorem tokenClaims (minted : s.mint now subject = .ok token) :
    Claims.ofToken? token = (s.claimsFor now subject).returned := by
  rw [Claims.ofToken?,(mintParts minted).2]
  simp only [encodedRead,Option.bind_eq_bind,Option.bind_some]
  exact Claims.claimsRead _

theorem tokenChecked (minted : s.mint now subject = .ok token) (same : verifier.secret = s.secret) :
    verifier.claims? later token = (s.claimsFor now subject).returned.filter (·.areValid later) := by
  have signature : verifier.sign (s.body now subject) = s.sign (s.body now subject) := by
    rw [sign,sign,same]
  rw [claims?,(mintParts minted).2]
  simp only [encodedRead,headerRead,← Claims.claimsRead,Option.bind_eq_bind,Option.bind_some]
  cases Json.read? (s.claimsFor now subject).toJson.text with
  | none => rfl
  | some document =>
    cases found : Claims.ofJson? document with
    | none => simp [found]
    | some claims =>
      have accepted : (method? header = some "HS256" ∧ s.sign (s.body now subject) =
          verifier.sign (s.body now subject) ∧ claims.areValid later = true) ↔
            claims.areValid later = true := by
        rw [signature]
        exact ⟨fun all => all.2.2,fun valid => ⟨rfl,rfl,valid⟩⟩
      simp only [Option.bind_some,found]
      rw [Option.filter_some]
      exact if_congr accepted rfl rfl

theorem tokenValidated (minted : s.mint now subject = .ok token) (same : verifier.secret = s.secret) :
    verifier.validate later token =
      ((s.claimsFor now subject).returned.filter (·.areValid later)).elim (.error .badToken) .ok := by
  rw [validate,tokenChecked minted same]
  cases found : (s.claimsFor now subject).returned.filter (·.areValid later) with
  | none => rfl
  | some claims =>
    obtain ⟨read,_⟩ := Option.filter_eq_some_iff.mp found
    have named : claims.subject ≠ [] := by
      rw [(Claims.returnedParts read).1]
      exact Text.cleanedFilled (mintParts minted).1
    exact if_neg (by simpa using named)

/-- A token with a lifetime is refused from some instant on. -/
theorem tokenEnds (minted : s.mint now subject = .ok token) (lasting : 0 < s.lifetime) :
    ∃ limit, ∀ verifier : Service, verifier.secret = s.secret → ∀ later, limit ≤ later →
      verifier.validate later token = .error .badToken := by
  cases read : (s.claimsFor now subject).returned with
  | none => exact ⟨0,fun verifier same later _ => by rw [tokenValidated minted same,read]; rfl⟩
  | some claims =>
    have ends : (s.claimsFor now subject).expires.isSome = true := by simp [claimsFor,lasting]
    obtain ⟨limit,expires⟩ := Option.isSome_iff_exists.mp ((Claims.returnedParts read).2.mpr ends)
    refine ⟨limit * 1000000000,fun verifier same later past => ?_⟩
    have ended : claims.areValid later = false := by
      have late : ¬ later < limit * 1000000000 := Int.not_lt.mpr past
      simp [Claims.areValid,expires,late]
    rw [tokenValidated minted same,read,Option.filter_some,ended]
    rfl

/-- While its times are near, a token is accepted from its instant on until it ends. -/
theorem tokenTaken (minted : s.mint now subject = .ok token) (near : (s.claimsFor now subject).Near)
    (same : verifier.secret = s.secret) (past : now ≤ later) : verifier.validate later token =
      if (s.claimsFor now subject).expires.all (later < · * 1000000000) then
        .ok (s.claimsFor now subject).legible else .error .badToken := by
  have issued : now.fdiv 1000000000 * 1000000000 ≤ later := by
    rw [Int.fdiv_eq_ediv_of_nonneg _ (by decide)]
    exact (Int.ediv_mul_le now (by decide)).trans past
  have valid : (s.claimsFor now subject).legible.areValid later =
      (s.claimsFor now subject).expires.all (later < · * 1000000000) := by
    have own : cleaned issuer = issuer := rfl
    simp [Claims.areValid,Claims.legible,claimsFor,issued,own]
  rw [tokenValidated minted same,Claims.returnedNear near,Option.filter_some,valid]
  split <;> rfl

end Service
end LogSql.Auth

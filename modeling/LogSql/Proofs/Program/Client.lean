import LogSql.Program.Client
import LogSql.Proofs.Auth.Tokens
import LogSql.Proofs.Compile.Alignment
import LogSql.Proofs.Http.Range
import LogSql.Proofs.Time.Moments

/-! What is typed on the command line. A request has a zero where it gives no bound, and so an instant that
comes to zero, in whatever notation or as a difference, is taken for none. A lifetime of the configuration
is positive, but one that is typed is taken as it is unless it is zero, and a token with a negative
lifetime is issued without an end. -/
namespace LogSql.Client

open Compile (Engine Compiled Numeral nanosNumeral windowText streamSelection)
open Int64Range (fits fitsRange wrap least greatest)
open Sql (Expr SelectOf)

/-! ### What is read -/

/-- What a compiled list of rows reads: the rows from one moment to another, both in milliseconds. -/
structure Spans (compiled : Compiled) (start stop : Int) : Prop where
  low : ∃ t, compiled.parameter? "from" = some (.verbatim t) ∧ Numeral t (start * 1000000)
  high : ∃ t, compiled.parameter? "to" = some (.verbatim t) ∧ Numeral t (stop * 1000000)
  rows : ∃ (streams : Text) (rows : SelectOf Text),
    (Expr.selectTexts compiled.bindings.view compiled.select).withs =
      [⟨streams,streamSelection⟩, ⟨rows.text,"sel_a"⟩] ∧
    rows.filters.head? = some (windowText start stop)

theorem numeralUnique {t : Text} {a b : Int} (first : Numeral t a) (second : Numeral t b) : a = b := by
  have dash : Text.isDecimal (Text.byte '-') = false := by decide
  cases first with
  | plain _ digits =>
    cases second with
    | plain => rfl
    | negative => simp [dash] at digits
  | negative =>
    cases second with
    | plain _ digits => simp [dash] at digits
    | negative => rfl

theorem Spans.unique {compiled : Compiled} {a b c d : Int} (first : Spans compiled a b)
    (second : Spans compiled c d) : a = c ∧ b = d := by
  have same {name : Text} {x y : Int}
      (one : ∃ t, compiled.parameter? name = some (.verbatim t) ∧ Numeral t (x * 1000000))
      (other : ∃ t, compiled.parameter? name = some (.verbatim t) ∧ Numeral t (y * 1000000)) : x = y := by
    obtain ⟨t,bound,numeral⟩ := one
    obtain ⟨t',bound',numeral'⟩ := other
    obtain rfl : t = t' := by simpa using bound.symm.trans bound'
    have scaled := numeralUnique numeral numeral'
    omega
  exact ⟨same first.low second.low,same first.high second.high⟩

section Requests

variable {e : Engine} {clientTemplates : Bool} {r : Compile.Request} {compiled : Compiled}

/-- A list of rows spans the window of its request. -/
theorem listingSpans (full : e.registry = Compile.Registry.full clientTemplates)
    (ok : e.compile r = .ok compiled) (listed : compiled.matrix = false) :
    Spans compiled (e.opening r) (e.closing r) := by
  obtain ⟨low,high⟩ := Compile.parametersSpelled full ok
  obtain ⟨text,_,source⟩ := Compile.compileSource full ok
  obtain ⟨streams,rows,name,more,reached⟩ : ∃ streams rows name more,
      Compile.Reached e { r with query := text } compiled streams rows name more := by
    cases source with
    | rows _ window drafted => exact (Compile.listingReached window drafted).2
    | matrix _ window drafted => exact (Compile.seriesReached window drafted).2
  obtain ⟨rfl,rfl,_⟩ := reached.limited listed
  rw [Engine.readsFrom,listed] at low
  rw [Engine.readsTo,listed] at high
  have window := reached.second.window
  rw [Engine.readsFrom,Engine.readsTo,listed] at window
  exact ⟨⟨_,low,nanosNumeral _⟩,⟨_,high,nanosNumeral _⟩,streams.text,rows,reached.withs,window⟩

end Requests

/-! ### What is given -/

/-- A request with both bounds given, and the bounds in milliseconds: in parameters, as flags, or as the end
and a length of time that leads back from it. -/
inductive Given : Compile.Request → Int → Int → Prop where
  | posted {p : Http.Params} {maxRange start stop : Int} {request : Compile.Request}
      (first : p.start ≠ []) (last : p.stop ≠ []) (opens : Moment.read? p.start = some start)
      (closes : Moment.read? p.stop = some stop) (asked : p.toCompile maxRange = .ok request) :
      Given request start stop
  | typed {a : Asked} {now : Instant} {query : Text} {start stop : Int} {request : Compile.Request}
      (first : a.start ≠ []) (last : a.stop ≠ []) (opens : Moment.read? a.start = some start)
      (closes : Moment.read? a.stop = some stop) (asked : a.request now query = .ok request) :
      Given request start stop
  | since {a : Asked} {now : Instant} {query : Text} {back stop : Int} {request : Compile.Request}
      (length : a.since ≠ []) (last : a.stop ≠ []) (leads : Duration.readRange a.since = .ok back)
      (closes : Moment.read? a.stop = some stop) (asked : a.request now query = .ok request) :
      Given request (stop - Duration.milliseconds back) stop

theorem flagRead {flag t : Text} {ms : Int} (ok : moment flag t = .ok ms) : Moment.read? t = some ms := by
  unfold moment at ok
  cases found : Moment.read? t with
  | none => simp [found] at ok
  | some n => simpa [found] using ok

/-- What is typed as flags gives the bounds of the request, or a length that leads back from its end. -/
theorem requestSteps {a : Asked} {now : Instant} {query : Text} {request : Compile.Request}
    (ok : a.request now query = .ok request) : ∃ start stop, Moment.read? a.start = some start ∧
      Moment.read? a.stop = some stop ∧
      (a.since = [] ∧ request.start = start ∧ request.stop = stop ∨
        a.since ≠ [] ∧ a.start = [] ∧ ∃ back, Duration.readRange a.since = .ok back ∧
          request.stop = (if stop = 0 then Instant.millis now else stop) ∧
          request.start = wrap (request.stop - Duration.milliseconds back)) := by
  obtain ⟨stop,closes,ok⟩ := bindOk ok
  obtain ⟨start,opens,ok⟩ := bindOk ok
  refine ⟨start,stop,flagRead opens,flagRead closes,?_⟩
  dsimp only at ok
  split at ok
  · cases ok
    exact .inl ⟨by simpa using ‹a.since.isEmpty = true›,rfl,rfl⟩
  · obtain ⟨alone,ok⟩ := guardOk ok
    obtain ⟨back,leads,ok⟩ := bindOk ok
    cases ok
    exact .inr ⟨by simpa using ‹¬ a.since.isEmpty = true›,by simpa using alone,back,mapErrorOk leads,rfl,rfl⟩

/-- A request that is not refused has the bounds that are given when its end is an end. -/
theorem givenRequest {e : Engine} {request : Compile.Request} {start stop : Int}
    (given : Given request start stop) (ordered : e.opening request ≤ e.closing request)
    (later : stop ≠ 0) : request.start = start ∧ request.stop = stop := by
  cases given with
  | posted first last opens closes asked =>
    obtain ⟨asks,_⟩ := Http.Params.toCompileAsks.mp asked
    exact ⟨Option.some.inj (asks.start.symm.trans opens),Option.some.inj (asks.stop.symm.trans closes)⟩
  | typed first last opens closes asked =>
    obtain ⟨start',stop',opens',closes',⟨_,one,two⟩ | ⟨_,alone,_⟩⟩ := requestSteps asked
    · rw [one,two]
      exact ⟨Option.some.inj (opens'.symm.trans opens),Option.some.inj (closes'.symm.trans closes)⟩
    · exact absurd alone first
  | @since a now query back stop request length last leads closes asked =>
    obtain ⟨_,stop',_,closes',⟨none,_⟩ | ⟨_,_,back',leads',two,one⟩⟩ := requestSteps asked
    · exact absurd none length
    obtain rfl : stop' = stop := Option.some.inj (closes'.symm.trans closes)
    obtain rfl : back' = back := Except.ok.inj (leads'.symm.trans leads)
    rw [if_neg later] at two
    rw [two] at one
    refine ⟨one.trans (Int64Range.wrapSame ?_),two⟩
    have inside := Moment.momentFits closes
    obtain ⟨positive,short⟩ := Duration.rangeShort leads
    rw [Engine.opening,Engine.closing,two,if_neg later,one] at ordered
    rw [Duration.milliseconds,Int.tdiv_eq_ediv_of_nonneg positive] at ordered ⊢
    rw [fitsRange,least,greatest] at inside ⊢
    rw [Duration.clockLimit] at short
    -- A difference below the range wraps to a start that lies behind the end.
    rw [Int64Range.wrapTurn] at ordered
    split at ordered <;> omega

/-- Bounds that are given are those of the rows that are read unless one of them comes to zero; then it is
taken for a bound that is not given, and the rows are others. -/
theorem boundsHonoured {e : Engine} {clientTemplates : Bool} {request : Compile.Request}
    {compiled : Compiled} {start stop : Int} (full : e.registry = Compile.Registry.full clientTemplates)
    (given : Given request start stop) (ok : e.compile request = .ok compiled)
    (listed : compiled.matrix = false) :
    (start ≠ 0 → stop ≠ 0 → Spans compiled start stop) ∧
    (start = 0 → stop ≠ 0 → Spans compiled (wrap (e.now - Compile.defaultWindow)) stop) ∧
    (Compile.defaultWindow < e.now → e.now ≤ greatest → start = 0 ∨ stop = 0 →
      ¬ Spans compiled start stop) := by
  have spans := listingSpans full ok listed
  have ordered := Compile.compileOrdered ok
  have bounds (later : stop ≠ 0) : Spans compiled
      (if start = 0 then wrap (e.now - Compile.defaultWindow) else start) stop := by
    obtain ⟨one,two⟩ := givenRequest given ordered later
    rwa [Engine.opening,Engine.closing,one,two,if_neg later] at spans
  refine ⟨fun first last => ?_,fun none last => ?_,fun clock near missing honoured => ?_⟩
  · have kept := bounds last
    rwa [if_neg first] at kept
  · have kept := bounds last
    rwa [if_pos none] at kept
  · rw [Compile.defaultWindow] at clock
    by_cases last : stop = 0
    · have met := (spans.unique honoured).2
      rw [Engine.closing] at met
      split at met <;> omega
    · obtain rfl : start = 0 := missing.resolve_right last
      have met := ((bounds last).unique honoured).1
      rw [if_pos rfl,Int64Range.wrapSame,Compile.defaultWindow] at met
      · omega
      · rw [fitsRange,least,Compile.defaultWindow]
        omega

/-- The hour before the epoch, and all time since the epoch. -/
def epochHour : Http.Params := { query := "\x7bapp=\"api\"\x7d", start := "-3600", stop := "0" }

@[inherit_doc epochHour]
def allSince : Asked := { stop := "1714564800", since := "1714564800s" }

theorem epochReplaced : (∃ request compiled, Given request (-3600000) 0 ∧
      Http.Server.mayDay.compile request = .ok compiled ∧ ¬ Spans compiled (-3600000) 0) ∧
    ∃ request compiled, Given request 0 1714564800000 ∧ Http.Server.mayDay.compile request = .ok compiled ∧
      ¬ Spans compiled 0 1714564800000 ∧ Spans compiled 1714561200000 1714564800000 := by
  have runs : (epochHour.toCompile 0).toOption.any (fun request =>
        (Http.Server.mayDay.compile request).toOption.any fun c => !c.matrix) = true ∧
      (allSince.request 0 "\x7bapp=\"api\"\x7d").toOption.any (fun request =>
        (Http.Server.mayDay.compile request).toOption.any fun c => !c.matrix) = true := by
    decide +kernel
  constructor
  · obtain ⟨request,asked,run⟩ := okAny runs.1
    obtain ⟨compiled,ok,listed⟩ := okAny run
    have given : Given request (-3600000) 0 :=
      .posted (p := epochHour) (by decide) (by decide) (by decide +kernel) (by decide +kernel) asked
    exact ⟨request,compiled,given,ok,(boundsHonoured rfl given ok (by simpa using listed)).2.2 (by decide)
      (by decide) (.inr rfl)⟩
  · obtain ⟨request,asked,run⟩ := okAny runs.2
    obtain ⟨compiled,ok,listed⟩ := okAny run
    have leads : Duration.readRange allSince.since = .ok 1714564800000000000 := by decide +kernel
    have closes : Moment.read? allSince.stop = some 1714564800000 := by decide +kernel
    have given : Given request 0 1714564800000 := .since (by decide) (by decide) leads closes asked
    obtain ⟨_,replaced,missed⟩ := boundsHonoured rfl given ok (by simpa using listed)
    exact ⟨request,compiled,given,ok,missed (by decide) (by decide) (.inl rfl),replaced rfl (by decide)⟩

end LogSql.Client

namespace LogSql.Client

/-! ### Lifetimes of tokens -/

open Auth (Claims Service)
open Command (Values)

theorem periodPositive {t : Text} {d : Int} (ok : Config.period t = .ok d) : 0 < d := by
  obtain ⟨read,_,ok⟩ := bindOk ok
  obtain ⟨positive,ok⟩ := guardOk ok
  cases ok
  exact Int.not_le.mp positive

theorem configuredPositive {c : Config} {lifetime : Int} (ok : c.tokenLifetime = .ok lifetime) :
    0 < lifetime := by
  rw [Config.tokenLifetime] at ok
  split at ok
  · cases ok
    decide
  · exact periodPositive ok

/-- Only a lifetime that is typed can be negative. -/
theorem lifetimePositive {c : Config} {asked lifetime : Int} (ok : lifetimeOf c asked = .ok lifetime) :
    0 < lifetime ↔ 0 ≤ asked := by
  rw [lifetimeOf] at ok
  split at ok
  · rename_i none
    exact iff_of_true (configuredPositive (mapErrorOk ok)) none.ge
  · rename_i some
    cases ok
    omega

/-- What is printed about a token of a service, and how long the token is accepted. -/
structure Issued (vs : Values) (now : Instant) (service : Service) (token out : Text) : Prop where
  shown : ∃ members, tokenDocument now service.lifetime token (vs.text "subject" []) = .object members ∧
    printed vs (.object members) token = .ok out ∧
    ((Json.member? members "expires_at").isSome ↔ 0 ≤ vs.int "ttl")
  claimed : ∀ claims, Claims.ofToken? token = some claims → (claims.expires.isSome ↔ 0 ≤ vs.int "ttl")
  ends : 0 ≤ vs.int "ttl" → ∃ limit, ∀ verifier : Service, verifier.secret = service.secret →
    ∀ later, limit ≤ later → verifier.validate later token = .error .badToken
  taken : (service.claimsFor now (vs.text "subject" [])).Near → ∃ claims,
    Claims.ofToken? token = some claims ∧
    claims.expires = (if 0 ≤ vs.int "ttl" then some ((now + service.lifetime).fdiv 1000000000) else none) ∧
    ∀ verifier : Service, verifier.secret = service.secret → ∀ later, now ≤ later →
      verifier.validate later token =
        if claims.expires.all (later < · * 1000000000) then .ok claims else .error .badToken

theorem expiryShown (now : Instant) (lifetime : Int) (token subject : Text) : ∃ members,
    tokenDocument now lifetime token subject = .object members ∧
      ((Json.member? members "expires_at").isSome ↔ 0 < lifetime) := by
  refine ⟨_,rfl,?_⟩
  split
  · rename_i positive
    exact iff_of_true rfl positive
  · rename_i negative
    exact iff_of_false (by simp +decide [Json.member?]) negative

theorem createService {secret : Text} {lifetime : Int} {service : Service}
    (ok : Service.create secret lifetime = .ok service) : service = ⟨secret,lifetime⟩ := by
  rw [Service.create] at ok
  split at ok
  · contradiction
  · exact (Except.ok.inj ok).symm

/-- A token that is minted ends unless a negative lifetime was asked for. -/
theorem mintedEnds {c : Config} {now : Instant} {vs : Values} {out : Text}
    (minted : mintToken c now vs = .ok out) : ∃ service token,
      service.secret = c.server.auth.secret ∧ lifetimeOf c (vs.int "ttl") = .ok service.lifetime ∧
      service.mint now (vs.text "subject" []) = .ok token ∧ Issued vs now service token out := by
  obtain ⟨_,minted⟩ := guardOk minted
  obtain ⟨lifetime,asked,minted⟩ := bindOk minted
  obtain ⟨service,created,minted⟩ := bindOk minted
  obtain ⟨token,signed,shown⟩ := bindOk minted
  obtain rfl := createService (mapErrorOk created)
  have signed := mapErrorOk signed
  have positive := lifetimePositive asked
  have expiry : ((⟨c.server.auth.secret,lifetime⟩ : Service).claimsFor now (vs.text "subject" [])).expires =
      if 0 ≤ vs.int "ttl" then some ((now + lifetime).fdiv 1000000000) else none := if_congr positive rfl rfl
  refine ⟨⟨c.server.auth.secret,lifetime⟩,token,rfl,asked,signed,?_⟩
  constructor
  case shown =>
    obtain ⟨members,document,announced⟩ := expiryShown now lifetime token (vs.text "subject" [])
    exact ⟨members,document,document ▸ shown,announced.trans positive⟩
  case claimed =>
    intro claims read
    rw [Service.tokenClaims signed] at read
    rw [(Claims.returnedParts read).2,expiry]
    split <;> simp_all
  case ends => exact fun asked => Service.tokenEnds signed (positive.mpr asked)
  case taken =>
    intro near
    refine ⟨_,(Service.tokenClaims signed).trans (Claims.returnedNear near),expiry,?_⟩
    exact fun verifier same later past => Service.tokenTaken signed near same past

/-- A configuration with a secret, and flags with a negative lifetime. -/
def secretOnly : Config :=
  { server := { auth := { secret := "0123456789abcdef0123456789abcdef" } } }

@[inherit_doc secretOnly]
def hourBack : Values := [("subject", .text "grafana"), ("ttl", .duration (-3600000000000))]

/-- What is minted for them is accepted at every later instant. -/
theorem endlessToken : ∃ out service token, mintToken secretOnly 0 hourBack = .ok out ∧
    Issued hourBack 0 service token out ∧ ∀ later, 0 ≤ later →
      service.validate later token = .ok { issuer := "blazeql", subject := "grafana", issuedAt := some 0 } := by
  obtain ⟨out,minted⟩ : ∃ out, mintToken secretOnly 0 hourBack = .ok out := ⟨_,rfl⟩
  obtain ⟨service,token,secret,asked,signed,issued⟩ := mintedEnds minted
  refine ⟨out,service,token,minted,issued,fun later past => ?_⟩
  have lifetime : service.lifetime = -3600000000000 := (Except.ok.inj asked).symm
  have endless : (service.claimsFor 0 (hourBack.text "subject" [])).expires = none := by
    simp [Service.claimsFor,lifetime]
  have near : (service.claimsFor 0 (hourBack.text "subject" [])).Near :=
    ⟨by simp [endless],by simp [Service.claimsFor],by simp [Service.claimsFor]⟩
  rw [Service.tokenTaken signed near rfl past,endless]
  refine congrArg Except.ok ?_
  simp only [Claims.legible,Service.claimsFor,lifetime,Claims.mk.injEq]
  exact ⟨rfl,rfl,by simp⟩

end LogSql.Client

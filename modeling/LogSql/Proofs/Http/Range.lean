import LogSql.Http.Server
import LogSql.Proofs.Compile.Window

/-! The longest range of a request. It is measured on the bounds as they are given, before a missing one is
filled in, and in sixty-four bits. So it holds for the window that is compiled where both bounds are given
and their distance has not wrapped; a request that leaves a bound out passes any limit. -/
namespace LogSql.Http

open Compile (Engine)
open Int64Range (fits greatest)

namespace Params

/-- What a request asks for, before its range is measured. -/
structure Asks (p : Params) (request : Compile.Request) : Prop where
  filled : (Text.trim p.query).isEmpty = false
  start : Moment.read? p.start = some request.start
  stop : Moment.read? p.stop = some request.stop
  limit : 0 ≤ p.limit
  direction : Text.lower p.direction ∈ [[], ("backward" : Text), "forward"]
  whole : request = { query := p.query, start := request.start, stop := request.stop, step := p.step,
                      limit := p.limit, forward := Text.lower p.direction = "forward" }

def Exceeds (maxRange : Int) (request : Compile.Request) : Prop :=
  request.start ≠ 0 ∧ request.stop ≠ 0 ∧
    Duration.milliseconds maxRange < Int64Range.wrap (request.stop - request.start)

theorem momentRead {name t : Text} {ms : Int} :
    moment name t = .ok ms ↔ Moment.read? t = some ms := by
  unfold moment
  cases Moment.read? t <;> simp

theorem toCompileAsks {maxRange : Int} {p : Params} {request : Compile.Request} :
    p.toCompile maxRange = .ok request ↔ p.Asks request ∧ ¬ Exceeds maxRange request := by
  constructor
  · intro ok
    unfold toCompile at ok
    obtain ⟨filled,ok⟩ := guardOk ok
    obtain ⟨start,first,ok⟩ := bindOk ok
    obtain ⟨stop,second,ok⟩ := bindOk ok
    obtain ⟨within,ok⟩ := guardOk ok
    obtain ⟨limit,ok⟩ := guardOk ok
    obtain ⟨direction,ok⟩ := guardOk ok
    cases ok
    have known : Text.lower p.direction ∈ [[], ("backward" : Text), "forward"] := by
      simpa [Decidable.or_iff_not_imp_left] using direction
    exact ⟨⟨by simpa using filled,momentRead.mp first,momentRead.mp second,by omega,known,rfl⟩,within⟩
  · rintro ⟨⟨filled,start,stop,limit,direction,whole⟩,within⟩
    have known : ¬ (Text.lower p.direction ≠ [] ∧ Text.lower p.direction ≠ ("backward" : Text) ∧
        Text.lower p.direction ≠ ("forward" : Text)) := by
      simpa [Decidable.or_iff_not_imp_left] using direction
    have positive : ¬ p.limit < 0 := by omega
    unfold Exceeds at within
    unfold toCompile
    simp only [filled,momentRead.mpr start,momentRead.mpr stop,bind,Except.bind,if_neg within,
      if_neg positive,if_neg known]
    rw [whole]
    rfl

end Params

namespace Server

/-- A query that the service has compiled, on its own or in a batch. -/
inductive Serves (s : Server) : Params → Prop where
  | single {r : Request} {p : Params} {v : Json} (read : Params.ofRequest r = .ok p)
      (served : s.transpile r = .ok v) : Serves s p
  | batched {r : Request} {p batch : Params} {v item : Json} (read : Params.ofRequest r = .ok batch)
      (served : s.batch r = .ok v) (one : p ∈ batch.queries) (compiled : s.compiled p = .ok item) :
      Serves s p

def withRange (s : Server) (maxRange : Int) : Server :=
  { s with settings := { s.settings with maxRange } }

variable {s : Server} {e : Engine} {p : Params}

theorem servesCompiled (serves : s.Serves p) : ∃ v, s.compiled p = .ok v := by
  cases serves with
  | single read served =>
    unfold transpile at served
    rw [read] at served
    obtain ⟨p,same,served⟩ := bindOk served
    cases same
    obtain ⟨_,_,served⟩ := bindOk served
    exact ⟨_,served⟩
  | batched _ _ _ compiled => exact ⟨_,compiled⟩

theorem compiledRequest (engine : s.compiler = .ofEngine e) {v : Json} (ok : s.compiled p = .ok v) :
    ∃ request compiled, p.toCompile s.settings.maxRange = .ok request ∧
      e.compile request = .ok compiled := by
  unfold Server.compiled at ok
  obtain ⟨request,asked,ok⟩ := bindOk ok
  obtain ⟨compiled,made,_⟩ := bindOk ok
  simp only [engine,Compiler.ofEngine] at made
  exact ⟨request,compiled,mapErrorOk asked,mapErrorOk made⟩

/-- The limit holds for what is compiled when both bounds are given, unless their distance has wrapped. -/
theorem givenRange {maxRange : Int} {request : Compile.Request} (small : fits maxRange = true)
    (within : ¬ Params.Exceeds maxRange request) (start : request.start ≠ 0) (stop : request.stop ≠ 0)
    (ordered : request.start ≤ request.stop) :
    request.stop - request.start ≤ Duration.milliseconds maxRange ↔
      request.stop - request.start ≤ greatest := by
  have most : Duration.milliseconds maxRange ≤ greatest := by
    have bound := (Int64Range.fitsRange.mp small).2
    obtain ⟨whole,_,low,_⟩ := Compile.tdivRest maxRange (d := 1000000) (by omega)
    unfold Duration.milliseconds
    unfold greatest at bound ⊢
    omega
  constructor
  · intro short
    omega
  · intro short
    have same : Int64Range.wrap (request.stop - request.start) = request.stop - request.start := by
      refine Int64Range.wrapSame (Int64Range.fitsRange.mpr ⟨?_,short⟩)
      unfold Int64Range.least
      omega
    unfold Params.Exceeds at within
    rw [same] at within
    exact Int.not_lt.mp fun above => within ⟨start,stop,above⟩

/-- The window that is compiled keeps to the limit where both bounds are given and sixty-four bits hold
their distance. Where they do not it is longer, and where a bound is missing no limit is looked at. -/
theorem rangeLimited (engine : s.compiler = .ofEngine e) (small : fits s.settings.maxRange = true)
    (serves : s.Serves p) :
    ∃ request compiled, p.Asks request ∧ e.compile request = .ok compiled ∧
      e.opening request ≤ e.closing request ∧
      (request.start ≠ 0 → request.stop ≠ 0 →
        (e.closing request - e.opening request ≤ Duration.milliseconds s.settings.maxRange ↔
          e.closing request - e.opening request ≤ greatest)) ∧
      (request.start = 0 ∨ request.stop = 0 →
        ∀ maxRange, (s.withRange maxRange).compiled p = s.compiled p) := by
  obtain ⟨v,served⟩ := servesCompiled serves
  obtain ⟨request,compiled,asked,ok⟩ := compiledRequest engine served
  obtain ⟨asks,within⟩ := Params.toCompileAsks.mp asked
  have ordered := Compile.compileOrdered ok
  refine ⟨request,compiled,asks,ok,ordered,fun start stop => ?_,fun missing maxRange => ?_⟩
  · rw [Engine.opening,if_neg start,Engine.closing,if_neg stop] at ordered ⊢
    exact givenRange small within start stop ordered
  · have passes : ¬ Params.Exceeds maxRange request := by
      rintro ⟨start,stop,_⟩
      rcases missing with none | none
      · exact start none
      · exact stop none
    have other := Params.toCompileAsks.mpr ⟨asks,passes⟩
    unfold Server.compiled
    rw [asked]
    simp only [withRange,other]
    rfl

def mayDay : Engine := { registry := .full true, now := 1714564800000 }

/-- A service at a fixed time with the default limit, which is thirty days. -/
def mayService : Server := { settings := ({} : Settings).withDefaults, compiler := .ofEngine mayDay }

def sinceEpoch : Request :=
  .ofTarget "GET" "/api/v1/transpile?query=%7Bapp%3D%22api%22%7D&start=1"

def allTime : Request :=
  .ofTarget "GET" "/api/v1/transpile?query=%7Bapp%3D%22api%22%7D&start=-9e15&end=9e15"

/-- A request that is served beyond the default limit. -/
def Overlong (r : Request) : Prop := ∃ p request compiled,
  Params.ofRequest r = .ok p ∧ mayService.Serves p ∧ Params.Asks p request ∧
    mayDay.compile request = .ok compiled ∧
    Duration.milliseconds mayService.settings.maxRange <
      mayDay.closing request - mayDay.opening request

/-- Half a century without an end, and a distance that wraps. -/
theorem longRangesServed : Overlong sinceEpoch ∧ Overlong allTime := by
  have runs : ∀ r ∈ [sinceEpoch, allTime], (mayService.transpile r).toOption.any (fun _ =>
      (Params.ofRequest r).toOption.any fun p => (Moment.read? p.start,Moment.read? p.stop) ∈
        [(some 1000, some 0), (some (-9000000000000000000), some 9000000000000000000)]) = true := by
    decide +kernel
  have limit : Duration.milliseconds mayService.settings.maxRange = 2592000000 := by decide
  have each (r : Request) (one : r ∈ [sinceEpoch, allTime]) : Overlong r := by
    obtain ⟨v,served,run⟩ := okAny (runs r one)
    obtain ⟨p,read,given⟩ := okAny run
    have serves : mayService.Serves p := .single read served
    obtain ⟨request,compiled,asks,ok,_,both,_⟩ :=
      rangeLimited (s := mayService) (e := mayDay) rfl (by decide) serves
    refine ⟨p,request,compiled,read,serves,asks,ok,?_⟩
    simp only [asks.start,asks.stop,List.mem_cons,List.not_mem_nil,or_false,Prod.mk.injEq,
      Option.some.injEq,decide_eq_true_eq] at given
    rcases given with ⟨start,stop⟩ | ⟨start,stop⟩
    · rw [limit,Engine.closing,if_pos stop,Engine.opening,if_neg (by omega),start]
      decide
    · have far : ¬ mayDay.closing request - mayDay.opening request ≤ greatest := by
        rw [Engine.closing,if_neg (by omega),Engine.opening,if_neg (by omega),start,stop]
        decide
      exact Int.not_le.mp fun within => far ((both (by omega) (by omega)).mp within)
  exact ⟨each _ (by simp),each _ (by simp)⟩

end Server
end LogSql.Http

import Mathlib.Logic.Function.Basic

/-!
# The gateway's response cache (`withCache`, `ristrettoCache`)

The gateway forwards the reads of its users to the node through `withCache`
(`tools/walletextension/rpcapi/utils.go`). Each endpoint gives its request a
strategy: `NoCache`, `LatestBatch` or `LongLiving`. A non-nil answer is kept
for `shortCacheTTL` or `longCacheTTL` in a ristretto cache
(`tools/walletextension/cache/RistrettoCache.go`). A `LongLiving` entry lives
out its TTL. A `LatestBatch` entry is not removed when a batch is produced:
the new head's notification calls `EvictShortLiving`, which moves
`lastEviction` past the time the entry was cached, and `IsEvicted` compares
the two.

ristretto itself is not part of the repository. Its `Get`, `GetTTL` and
`SetWithTTL` are a parameter (`Ristretto`) over ristretto's own state. A
`SetWithTTL` may be refused by ristretto's admission policy, and it is
applied by one of ristretto's goroutines after the call has returned, so
what `Get` finds depends on the state and on the instant of the call. The
one property of ristretto used below is a hypothesis where it is used
(`Ristretto.FoundUntilTTL`): a `SetWithTTL` that was admitted and processed
is found until its TTL has passed.

This module models `withCache` over any endpoint, and the gateway as a state
machine whose steps are requests, batches (each followed by
`EvictShortLiving`) and the passing of time. The node's chain is a parameter
with the relation by which it grows.

## Main results

* `withCache_longLiving_miss`, `withCache_longLiving_hit`: a `LongLiving`
  request is answered by the node and cached when ristretto has nothing for
  it, and from ristretto when it has.
* `request_stale_afterBatch`: a `LongLiving` answer is served from the cache
  after a batch, whatever the node answers by then, when ristretto admitted
  the entry.
-/

namespace GoTen.WalletExtension.Cache

/-- `CacheStrategy`. -/
inductive CacheStrategy where
  | noCache
  | latestBatch
  | longLiving
  deriving DecidableEq, Repr

/-- `CacheCfg`. `CacheTypeDynamic` is a closure over the request's parameters
that reads nothing else, so it is the strategy it returns. -/
structure CacheCfg where
  cacheType : CacheStrategy
  cacheTypeDynamic : Option CacheStrategy
  deriving DecidableEq, Repr

/-- The strategy `withCache` applies: the dynamic one where there is one. -/
def CacheCfg.resolve (cfg : CacheCfg) : CacheStrategy :=
  cfg.cacheTypeDynamic.getD cfg.cacheType

/-- `longCacheTTL`, five hours in nanoseconds. -/
def longCacheTTL : Nat := 5 * 60 * 60 * 1000000000

/-- `shortCacheTTL`, one minute in nanoseconds. -/
def shortCacheTTL : Nat := 60 * 1000000000

/-- The calls the gateway makes on a `ristretto.Cache`, over ristretto's
state `σ`, at an instant in nanoseconds of the gateway's clock. -/
structure Ristretto (σ K V : Type) where
  /-- `Get`. -/
  get : σ → Nat → K → Option V
  /-- `GetTTL`: the time a live entry has left. -/
  getTTL : σ → Nat → K → Option Nat
  /-- `SetWithTTL`, with the gateway's cost of one. -/
  setWithTTL : σ → Nat → K → V → Nat → σ

variable {σ K V : Type}

/-- ristretto admits and processes a `SetWithTTL` of `key` made at `now` in
the state `s`: `Get` finds the value from then until its TTL has passed. -/
def Ristretto.FoundUntilTTL (r : Ristretto σ K V) (s : σ) (now : Nat) (key : K) : Prop :=
  ∀ v ttl now', now ≤ now' → now' ≤ now + ttl → r.get (r.setWithTTL s now key v ttl) now' key = some v

/-- `ristrettoCache`: ristretto's state, and the time of the last
`EvictShortLiving`. -/
structure RistrettoCache (σ : Type) where
  cache : σ
  lastEviction : Nat

/-- `NewRistrettoCacheWithEviction` at the instant `now`, over a new
ristretto in the state `empty`. -/
def newRistrettoCacheWithEviction (empty : σ) (now : Nat) : RistrettoCache σ :=
  ⟨empty, now⟩

namespace RistrettoCache

/-- `IsEvicted`: a missing or expired entry, or one cached before the last
eviction. -/
def isEvicted (c : RistrettoCache σ) (r : Ristretto σ K V) (now : Nat) (key : K)
    (originalTTL : Nat) : Bool :=
  match r.getTTL c.cache now key with
  | none => true
  | some remainingTTL =>
      let cachedTime := now + remainingTTL - originalTTL
      -- c.lastEviction.After(cachedTime)
      decide (cachedTime < c.lastEviction)

/-- `EvictShortLiving`. -/
def evictShortLiving (c : RistrettoCache σ) (now : Nat) : RistrettoCache σ :=
  { c with lastEviction := now }

/-- `Set`. -/
def set (c : RistrettoCache σ) (r : Ristretto σ K V) (now : Nat) (key : K) (value : V)
    (ttl : Nat) : RistrettoCache σ :=
  { c with cache := r.setWithTTL c.cache now key value ttl }

/-- `Get`. -/
def get (c : RistrettoCache σ) (r : Ristretto σ K V) (now : Nat) (key : K) : Option V :=
  r.get c.cache now key

@[simp]
theorem cache_evictShortLiving (c : RistrettoCache σ) (now : Nat) :
    (c.evictShortLiving now).cache = c.cache :=
  rfl

end RistrettoCache

/-- The strategy of a configuration; a nil one caches nothing. -/
def strategyOf : Option CacheCfg → CacheStrategy
  | none => .noCache
  | some cfg => cfg.resolve

/-- `withCache`: the value cached for `cacheKey`, unless the strategy is
`NoCache` or a `LatestBatch` entry was evicted; otherwise `onCacheMiss`,
whose answer is cached when it is a value. -/
def withCache (r : Ristretto σ K V) (cache : RistrettoCache σ) (now : Nat)
    (cfg : Option CacheCfg) (cacheKey : K) (onCacheMiss : Except String (Option V)) :
    RistrettoCache σ × Except String (Option V) :=
  match cfg with
  | none => (cache, onCacheMiss)
  | some cfg =>
      let cacheType := cfg.resolve
      if cacheType = .noCache then (cache, onCacheMiss)
      else
        let ttl := if cacheType = .latestBatch then shortCacheTTL else longCacheTTL
        let isEvicted :=
          if cacheType = .latestBatch then cache.isEvicted r now cacheKey ttl else false
        match (if isEvicted then none else cache.get r now cacheKey) with
        | some cachedValue => (cache, .ok (some cachedValue))
        | none =>
            match onCacheMiss with
            -- cache only non-nil values
            | .ok (some result) => (cache.set r now cacheKey result ttl, .ok (some result))
            | result => (cache, result)

section WithCache

variable {r : Ristretto σ K V} {cache : RistrettoCache σ} {now : Nat} {cfg : Option CacheCfg}
  {key : K}

/-- A configuration whose strategy is `LongLiving` is present and resolves
to it. -/
theorem exists_cfg_of_strategyOf (hlong : strategyOf cfg = .longLiving) :
    ∃ c, cfg = some c ∧ c.resolve = .longLiving := by
  cases cfg with
  | none => cases hlong
  | some c => exact ⟨c, rfl, hlong⟩

/-- A `LongLiving` request that ristretto does not find is answered by the
node, and a value is set for `longCacheTTL`. -/
theorem withCache_longLiving_miss {v : V} (hlong : strategyOf cfg = .longLiving)
    (hmiss : r.get cache.cache now key = none) :
    withCache r cache now cfg key (.ok (some v)) =
      (cache.set r now key v longCacheTTL, .ok (some v)) := by
  obtain ⟨c, rfl, hresolve⟩ := exists_cfg_of_strategyOf hlong
  simp [withCache, hresolve, RistrettoCache.get, hmiss]

/-- A `LongLiving` request that ristretto finds is answered from it, whatever
the node answers; `IsEvicted` is not asked. -/
theorem withCache_longLiving_hit {v : V} (hlong : strategyOf cfg = .longLiving)
    (hhit : r.get cache.cache now key = some v) (onCacheMiss : Except String (Option V)) :
    withCache r cache now cfg key onCacheMiss = (cache, .ok (some v)) := by
  obtain ⟨c, rfl, hresolve⟩ := exists_cfg_of_strategyOf hlong
  simp [withCache, hresolve, RistrettoCache.get, hhit]

end WithCache

/-! ## The gateway in a run -/

/-- An endpoint of the gateway: the cache configuration it gives a request
(keyed by its cache key), and the node's answer to the request on a chain. -/
structure Backend (C K V : Type) where
  cacheCfg : K → Option CacheCfg
  answer : C → K → Except String (Option V)

/-- The strategy the endpoint gives a request. -/
def Backend.strategy {C : Type} (be : Backend C K V) (key : K) : CacheStrategy :=
  strategyOf (be.cacheCfg key)

/-- The gateway in a run: the node's chain as it now is, the cache and the
clock. -/
structure Gateway (C σ : Type) where
  chain : C
  cache : RistrettoCache σ
  now : Nat

variable {C : Type}

/-- The gateway as it starts at the instant `now`, in front of `chain`, with
a new ristretto in the state `empty`. -/
def Gateway.init (chain : C) (empty : σ) (now : Nat) : Gateway C σ :=
  ⟨chain, newRistrettoCacheWithEviction empty now, now⟩

/-- A request through `withCache`, the node answering on the chain of the
moment. -/
def Gateway.request (g : Gateway C σ) (r : Ristretto σ K V) (be : Backend C K V) (key : K) :
    Gateway C σ × Except String (Option V) :=
  let served := withCache r g.cache g.now (be.cacheCfg key) key (be.answer g.chain key)
  ({ g with cache := served.1 }, served.2)

/-- A batch produced `d` after the last event: the chain grows to `chain`,
and the new head's notification calls `EvictShortLiving`. -/
def Gateway.produceBatch (g : Gateway C σ) (chain : C) (d : Nat) : Gateway C σ :=
  ⟨chain, g.cache.evictShortLiving (g.now + d), g.now + d⟩

/-- Time passes; ristretto's goroutines may process its buffers meanwhile,
which its `Get` at the later instant reflects. -/
def Gateway.tick (g : Gateway C σ) (d : Nat) : Gateway C σ :=
  { g with now := g.now + d }

/-- One step of the gateway in front of the endpoint `be` over the ristretto
`r`, on a chain that grows by `grows`. A batch comes strictly after the event
before it. -/
inductive Step (r : Ristretto σ K V) (be : Backend C K V) (grows : C → C → Prop) :
    Gateway C σ → Gateway C σ → Prop
  | request (g : Gateway C σ) (key : K) : Step r be grows g (g.request r be key).1
  | produceBatch (g : Gateway C σ) (chain : C) (d : Nat) (hgrow : grows g.chain chain)
      (hd : 0 < d) : Step r be grows g (g.produceBatch chain d)
  | tick (g : Gateway C σ) (d : Nat) : Step r be grows g (g.tick d)

/-! ## A `LongLiving` answer outlives a batch -/

section Stale

variable {r : Ristretto σ K V} {be : Backend C K V} {g : Gateway C σ} {key : K}

/-- A `LongLiving` request that ristretto does not find is answered by the
node and set; when ristretto admits that set, the same request after a
batch, within the TTL, is answered from the cache, whatever the chain has
become. -/
theorem request_stale_afterBatch {v : V} {chain : C} {d : Nat}
    (hlong : be.strategy key = .longLiving) (hmiss : r.get g.cache.cache g.now key = none)
    (hkept : r.FoundUntilTTL g.cache.cache g.now key)
    (hanswer : be.answer g.chain key = .ok (some v)) (httl : d ≤ longCacheTTL) :
    (g.request r be key).2 = .ok (some v) ∧
      (((g.request r be key).1.produceBatch chain d).request r be key).2 = .ok (some v) := by
  have hfirst : g.request r be key =
      ({ g with cache := g.cache.set r g.now key v longCacheTTL }, .ok (some v)) := by
    simp only [Gateway.request, hanswer, withCache_longLiving_miss hlong hmiss]
  have hfound : r.get (r.setWithTTL g.cache.cache g.now key v longCacheTTL) (g.now + d) key =
      some v :=
    hkept v longCacheTTL (g.now + d) (Nat.le_add_right _ _) (Nat.add_le_add_left httl _)
  refine ⟨by rw [hfirst], ?_⟩
  rw [hfirst]
  exact congrArg Prod.snd (withCache_longLiving_hit hlong hfound _)

end Stale

/-! ## A ristretto that admits every set at once -/

/-- An entry of an ideal TTL map: the value and the instant its TTL ends. -/
structure Entry (V : Type) where
  value : V
  expiration : Nat
  deriving DecidableEq, Repr

/-- A ristretto that admits every `SetWithTTL` and applies it before the call
returns: a map from keys to their last entry, found until it expires. -/
def idealRistretto [DecidableEq K] : Ristretto (K → Option (Entry V)) K V where
  get entries now key := (entries key).bind fun e => if now > e.expiration then none else some e.value
  getTTL entries now key :=
    (entries key).bind fun e => if now > e.expiration then none else some (e.expiration - now)
  setWithTTL entries now key value ttl := Function.update entries key (some ⟨value, now + ttl⟩)

theorem idealRistretto_foundUntilTTL [DecidableEq K] (entries : K → Option (Entry V))
    (now : Nat) (key : K) : (idealRistretto : Ristretto _ K V).FoundUntilTTL entries now key := by
  intro v ttl now' _ hbefore
  simp [idealRistretto, Nat.not_lt.mpr hbefore]

end GoTen.WalletExtension.Cache

import DiscoveryServer.Library.OrdSet
import Mathlib.Data.Prod.Lex
import Mathlib.Order.Nat

/-!
# GUIDs

`GUID_t` is the twelve-octet participant prefix followed by the four-octet
entity id, ordered octet by octet: prefix first, then entity. Octet strings of
one length are ordered as the numbers they spell, so both parts are bit vectors
here.
-/

namespace DiscoveryServer

/-- `GuidPrefix_t`: twelve octets. -/
abbrev GuidPrefix := BitVec 96

/-- `EntityId_t`: four octets. -/
abbrev EntityId := BitVec 32

/-- `GUID_t`. -/
structure Guid where
  guidPrefix : GuidPrefix
  entityId : EntityId

namespace Guid

theorem ext_parts {g h : Guid} (hguid : g.guidPrefix = h.guidPrefix)
    (hentity : g.entityId = h.entityId) : g = h := by
  cases g
  cases h
  rw [Guid.mk.injEq]
  exact ⟨hguid, hentity⟩

/-- The pair of numbers GUIDs are compared by. -/
def rank (g : Guid) : Lex (Nat × Nat) := toLex (g.guidPrefix.toNat, g.entityId.toNat)

theorem rank_injective : Function.Injective rank := by
  intro g h heq
  have hpair := toLex.injective heq
  have hpre : g.guidPrefix.toNat = h.guidPrefix.toNat := congrArg Prod.fst hpair
  have hentity : g.entityId.toNat = h.entityId.toNat := congrArg Prod.snd hpair
  cases g; cases h
  simp only [BitVec.toNat_inj] at hpre hentity
  rw [hpre, hentity]

instance : LinearOrder Guid := LinearOrder.lift' rank rank_injective

/-- `c_EntityId_RTPSParticipant`, printed as `0.0.1.c1`. -/
def cEntityIdRTPSParticipant : EntityId := 0x000001c1#32

/-- `GUID_t::unknown()`: all octets zero. -/
def unknown : Guid := ⟨0, 0⟩

/-- `GUID_t(prefix, c_EntityId_RTPSParticipant)`: the participant with a prefix. -/
def ofPrefix (p : GuidPrefix) : Guid := ⟨p, cEntityIdRTPSParticipant⟩

/-- The GUID of the participant an entity belongs to. -/
def participant (g : Guid) : Guid := { g with entityId := cEntityIdRTPSParticipant }

end Guid

end DiscoveryServer

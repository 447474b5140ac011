import LoginCard.LogRecord
import LoginCard.Toml.Value

/-!
# Key-value storages

A storage holds TOML values under keys. Either call may fail, change the storage, and log.
-/

namespace LoginCard

/-- What a call on a storage comes to. -/
structure Access (σ α : Type) where
  result : Except StorageFault α
  after : σ
  records : List LogRecord

class Storage (σ : Type) where
  get : σ → String → Access σ (Option Toml.Value)
  set : σ → String → Toml.Value → Access σ Unit

/-- A storage in memory never fails. -/
structure MemoryStorage where
  slots : Toml.Table

namespace MemoryStorage

def empty : MemoryStorage := ⟨[]⟩

instance : Storage MemoryStorage where
  get s key := ⟨.ok (Keyed.find? key s.slots), s, []⟩
  set s key v := ⟨.ok (), ⟨Keyed.insert key v s.slots⟩, []⟩

end MemoryStorage

end LoginCard

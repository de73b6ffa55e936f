import Cutover.Config.Basic
import Cutover.Service.Operation

set_option autoImplicit false

namespace Cutover.Registry

open Operation

def list : Operation (List Storage) := listStorages

def get (id : String) : Operation (Option Storage) := getStorage id

def defaultStorage : Operation Storage := do
  match ← getDefaultStorage with
  | some storage => return storage
  | none => throw .noDefaultStorage

def ensureUnused (id : String) : Operation Unit := do
  if (← listTimelines (.ofStorage id)) ≠ [] then throw (.storageInUse id)

/-- Creates a storage, or changes the one with its id. -/
def createOrUpdate (storage : Storage) : Operation Storage := do
  match ← getStorage storage.id with
  | some existing =>
      if existing.type ≠ storage.type then throw (.storageTypeChange storage.id)
      ensureUnused storage.id
      writeStore (·.updateStorage storage)
  | none => writeStore (·.createStorage storage)
  return storage

/-- Deletes a storage; one that is not there needs no deleting. -/
def delete (id : String) : Operation Unit := do
  match ← getStorage id with
  | none => return ()
  | some _ =>
      ensureUnused id
      writeStore (·.deleteStorage id)

/-- Makes sure that there is a default storage, from the configuration if need be. -/
def ensureDefault (config : Config) : Operation Storage := do
  match ← getDefaultStorage with
  | some storage => return storage
  | none =>
      match config.defaultStorage with
      | none => throw .noDefaultStorage
      | some definition =>
          match definition.toStorage with
          | .error e => throw (.invalidConfiguration e.message)
          | .ok storage => createOrUpdate storage

end Cutover.Registry

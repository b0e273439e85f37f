import NetActivation.Address.Basic
import NetActivation.Address.Network
import NetActivation.Address.Printer
import NetActivation.Address.Reader
import NetActivation.Codec.Bytes
import NetActivation.Codec.Sequence
import NetActivation.Condition.Basic
import NetActivation.Condition.Grammar
import NetActivation.Condition.Operators
import NetActivation.Condition.Printer
import NetActivation.Condition.Reader
import NetActivation.ConditionSet
import NetActivation.Dialog.ConditionsPage
import NetActivation.Dialog.Page
import NetActivation.Dialog.PlainPage
import NetActivation.Dialog.Steps
import NetActivation.Digest.Blake3
import NetActivation.Editor.Basic
import NetActivation.Editor.ConfigFile
import NetActivation.Editor.Description
import NetActivation.Editor.Edit
import NetActivation.Editor.Guarded
import NetActivation.Editor.Mirror
import NetActivation.Editor.Plain
import NetActivation.Editor.Row
import NetActivation.Editor.RowPool
import NetActivation.Editor.Session
import NetActivation.Entity.Basic
import NetActivation.Entity.Memory
import NetActivation.Evaluation
import NetActivation.Files.Disk
import NetActivation.Files.Faulty
import NetActivation.Files.FileSystem
import NetActivation.Proofs.AddressRanges
import NetActivation.Proofs.AddressText
import NetActivation.Proofs.Application
import NetActivation.Proofs.AppliedPages
import NetActivation.Proofs.ChosenFields
import NetActivation.Proofs.CommittedPages
import NetActivation.Proofs.ConditionGrammar
import NetActivation.Proofs.ConditionSetReading
import NetActivation.Proofs.ConditionSetText
import NetActivation.Proofs.ConditionText
import NetActivation.Proofs.DamagedFiles
import NetActivation.Proofs.DefiniteConditions
import NetActivation.Proofs.DiskFiles
import NetActivation.Proofs.DisplayedSets
import NetActivation.Proofs.EditorRefinement
import NetActivation.Proofs.EditorSlots
import NetActivation.Proofs.EnteredRules
import NetActivation.Proofs.EvaluationLaws
import NetActivation.Proofs.EvaluationReport
import NetActivation.Proofs.ExactAddresses
import NetActivation.Proofs.GuardedReading
import NetActivation.Proofs.Lists
import NetActivation.Proofs.Monotonicity
import NetActivation.Proofs.ObservedChanges
import NetActivation.Proofs.ObserverMirror
import NetActivation.Proofs.ParseErrors
import NetActivation.Proofs.PayloadCodec
import NetActivation.Proofs.Rearrangement
import NetActivation.Proofs.RefusedEdits
import NetActivation.Proofs.Reload
import NetActivation.Proofs.ReopenedStores
import NetActivation.Proofs.RowConsistency
import NetActivation.Proofs.RowOrigin
import NetActivation.Proofs.RowPool
import NetActivation.Proofs.ShownRows
import NetActivation.Proofs.SlotBounds
import NetActivation.Proofs.StoreEntries
import NetActivation.Proofs.StoreFile
import NetActivation.Proofs.StoreHistory
import NetActivation.Proofs.StoreRun
import NetActivation.Proofs.TextConditions
import NetActivation.Snapshot
import NetActivation.Store.Basic
import NetActivation.Store.Entry
import NetActivation.Store.Error
import NetActivation.Store.File
import NetActivation.Store.Guarded
import NetActivation.Store.Operation
import NetActivation.Store.Payload
import NetActivation.Store.StoredEntity
import NetActivation.Text.Digits
import NetActivation.Text.Fields
import NetActivation.Text.Position
import NetActivation.Text.Printable
import NetActivation.Text.Quoted
import NetActivation.Text.Search
import NetActivation.Text.WhiteSpace
import NetActivation.Toml.Document
import NetActivation.Toml.Token
import NetActivation.Toml.Value

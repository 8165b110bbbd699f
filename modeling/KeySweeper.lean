import KeySweeper.Admin
import KeySweeper.Control
import KeySweeper.Document
import KeySweeper.Duration
import KeySweeper.Environment
import KeySweeper.Failure
import KeySweeper.Fleet.Basic
import KeySweeper.Fleet.Gate
import KeySweeper.Fleet.Script
import KeySweeper.Fleet.Settle
import KeySweeper.Glob
import KeySweeper.Guard
import KeySweeper.Guard.Session
import KeySweeper.Handoff
import KeySweeper.Log
import KeySweeper.Pipeline
import KeySweeper.Schedule
import KeySweeper.Server.Address
import KeySweeper.Server.Connection
import KeySweeper.Server.Paging
import KeySweeper.Server.Reply
import KeySweeper.Server.Session
import KeySweeper.Server.Store
import KeySweeper.Server.Sweep
import KeySweeper.Service
import KeySweeper.Settings
import KeySweeper.Slot
import KeySweeper.Stage.Bench
import KeySweeper.Stage.Deleter
import KeySweeper.Stage.Filter
import KeySweeper.Stage.Scanner
import KeySweeper.Store.Call
import KeySweeper.Store.Fault
import KeySweeper.Store.Keyspace
import KeySweeper.Store.Memory
import KeySweeper.Store.Session
import KeySweeper.Sweep
import KeySweeper.Sweeper
import KeySweeper.Text.Blank
import KeySweeper.Text.JsonString
import KeySweeper.Text.Literal
import KeySweeper.Text.Numeral
import KeySweeper.Text.Percent
import KeySweeper.Text.Terminal
import KeySweeper.Text.Unprintable
import KeySweeper.Timestamp
import KeySweeper.Ttl
import KeySweeper.Proofs.Execution
import KeySweeper.Proofs.Flow
import KeySweeper.Proofs.Chronicle
import KeySweeper.Proofs.Clearance
import KeySweeper.Proofs.Engagements
import KeySweeper.Proofs.Clocking
import KeySweeper.Proofs.Deletion
import KeySweeper.Proofs.Refinement
import KeySweeper.Proofs.Custody
import KeySweeper.Proofs.Passage
import KeySweeper.Proofs.LastCall
import KeySweeper.Proofs.Tenancy
import KeySweeper.Proofs.Occupancy
import KeySweeper.Proofs.Crew
import KeySweeper.Proofs.Exclusion
import KeySweeper.Proofs.Release
import KeySweeper.Proofs.Process
import KeySweeper.Proofs.Shutdown
import KeySweeper.Proofs.Progress
import KeySweeper.Proofs.Inventory
import KeySweeper.Proofs.Tally
import KeySweeper.Proofs.Calm
import KeySweeper.Proofs.Undisturbed
import KeySweeper.Proofs.Unending
import KeySweeper.Proofs.Termination
import KeySweeper.Proofs.Crashes
import KeySweeper.Proofs.Outcome
import KeySweeper.Proofs.Counting
import KeySweeper.Proofs.Failures
import KeySweeper.Proofs.Delivery
import KeySweeper.Proofs.Containment
import KeySweeper.Proofs.Signals
import KeySweeper.Proofs.Buffering
import KeySweeper.Proofs.Reception
import KeySweeper.Proofs.Resumption
import KeySweeper.Proofs.PatternLanguage
import KeySweeper.Proofs.PatternPositions
import KeySweeper.Proofs.Causes
import KeySweeper.Proofs.Forestalled
import KeySweeper.Proofs.Batching
import KeySweeper.Proofs.PageStream
import KeySweeper.Proofs.Directory
import KeySweeper.Proofs.Snapshots
import KeySweeper.Proofs.Feeding
import KeySweeper.Proofs.Lifetimes
import KeySweeper.Proofs.Visits
import KeySweeper.Proofs.PatternClasses
import KeySweeper.Proofs.Numerals
import KeySweeper.Proofs.Variables
import KeySweeper.Proofs.Pacing
import KeySweeper.Proofs.Joining
import KeySweeper.Proofs.Handover

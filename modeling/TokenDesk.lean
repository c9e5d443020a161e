import TokenDesk.Batch.Execution
import TokenDesk.CommandLine
import TokenDesk.Contract.Journal
import TokenDesk.Host.Directory
import TokenDesk.Json.Forms
import TokenDesk.Ledger.Journal
import TokenDesk.Main
import TokenDesk.Proofs.Batch.Run
import TokenDesk.Proofs.Batch.Course
import TokenDesk.Proofs.Batch.Calls
import TokenDesk.Proofs.Batch.Reconciliation
import TokenDesk.Proofs.Batch.Payout
import TokenDesk.Proofs.Amount.Reading
import TokenDesk.Proofs.Amount.Rendering
import TokenDesk.Proofs.Address.Tagged
import TokenDesk.Proofs.Batch.Source
import TokenDesk.Proofs.Batch.Gas
import TokenDesk.Proofs.Batch.Composition
import TokenDesk.Proofs.Batch.Submission
import TokenDesk.Proofs.Command.Guard
import TokenDesk.Proofs.Command.BatchPay
import TokenDesk.Proofs.Abi.Layout
import TokenDesk.Proofs.Abi.Reading
import TokenDesk.Proofs.Token.Operation
import TokenDesk.Proofs.Address.Hex
import TokenDesk.Proofs.Command.BatchListing
import TokenDesk.Proofs.ContractBook
import TokenDesk.Proofs.Settings.Contracts
import TokenDesk.Proofs.Command.Destination
import TokenDesk.Proofs.Command.Settled
import TokenDesk.Proofs.Ledger.Unlocking
import TokenDesk.Proofs.Batch.Waiting
import TokenDesk.Proofs.Rpc.Transaction
import TokenDesk.Proofs.Rpc.Polling
import TokenDesk.Proofs.Abi.Returned
import TokenDesk.Proofs.ContractBook.History
import TokenDesk.Proofs.Settings.Merging
import TokenDesk.Proofs.Desk.Conversion
import TokenDesk.Proofs.Rpc.Quantity
import TokenDesk.Proofs.Command.Payment
import TokenDesk.Proofs.Address.Spelling
import TokenDesk.Proofs.Amount.Native
import TokenDesk.Proofs.Command.CreateSheet
import TokenDesk.Proofs.Command.Deployment
import TokenDesk.Proofs.Token.Failure
import TokenDesk.Proofs.CommandLine.Globals

import ContractOps.Main
import ContractOps.Wallet.Mnemonic
import ContractOps.Proofs.Listing.Evolving
import ContractOps.Proofs.Listing.Exhaustion
import ContractOps.Proofs.Listing.Flaky
import ContractOps.Proofs.Numeral.Shortest
import ContractOps.Proofs.Config.Composition
import ContractOps.Proofs.Config.NormalForm
import ContractOps.Proofs.Tx.RawLog
import ContractOps.Proofs.Storage.Aftermath
import ContractOps.Proofs.Storage.Order
import ContractOps.Proofs.Storage.Record
import ContractOps.Proofs.Command.Agreement
import ContractOps.Proofs.Command.Calling
import ContractOps.Proofs.Command.Capturing
import ContractOps.Proofs.Command.Failing
import ContractOps.Proofs.Command.Labels
import ContractOps.Proofs.Command.Tokens
import ContractOps.Proofs.Executor.Turns
import ContractOps.Proofs.Fee
import ContractOps.Proofs.Message.Actions
import ContractOps.Proofs.Message.Distinction
import ContractOps.Proofs.Message.Refunding
import ContractOps.Proofs.Client.Querying
import ContractOps.Proofs.Client.Escaping
import ContractOps.Proofs.Users
import ContractOps.Proofs.Config.Finding
import ContractOps.Proofs.Client.Addressing

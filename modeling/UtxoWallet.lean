import UtxoWallet.Main
import UtxoWallet.World
import UtxoWallet.Proofs.Curve.Group
import UtxoWallet.Proofs.Bytes.Der
import UtxoWallet.Proofs.Curve.Signature
import UtxoWallet.Proofs.Bytes.Base64
import UtxoWallet.Proofs.Key.Address
import UtxoWallet.Proofs.Key.File
import UtxoWallet.Proofs.Attempt
import UtxoWallet.Proofs.Ledger.Draft
import UtxoWallet.Proofs.Ledger.FirstFit
import UtxoWallet.Proofs.Ledger.Signing
import UtxoWallet.Proofs.Wallet.Reading
import UtxoWallet.Proofs.Wallet.Transfer
import UtxoWallet.Proofs.Text.Lines
import UtxoWallet.Proofs.Wallet.Record
import UtxoWallet.Proofs.Files.Path
import UtxoWallet.Proofs.Files.Tree
import UtxoWallet.Proofs.Wallet.Store
import UtxoWallet.Proofs.Wallet.Log
import UtxoWallet.Proofs.Ledger.Preimage
import UtxoWallet.Proofs.Ledger.Verification
import UtxoWallet.Proofs.Files.Directory
import UtxoWallet.Proofs.Wallet.Concurrent
import UtxoWallet.Proofs.Wallet.Creation
import UtxoWallet.Proofs.Wallet.Sending
import UtxoWallet.Proofs.Wallet.Snapshot
import UtxoWallet.Proofs.Wallet.Spendable
import UtxoWallet.Proofs.Wallet.InStep
import UtxoWallet.Proofs.Wallet.Requests
import UtxoWallet.Proofs.Ledger.Payees
import UtxoWallet.Proofs.Key.Spelling
import UtxoWallet.Proofs.Wallet.Stored
import UtxoWallet.Proofs.Wallet.Grammar
import UtxoWallet.Proofs.Node.Posting
import UtxoWallet.Proofs.Wallet.Success
import UtxoWallet.Proofs.CommandLine.AllOrNothing
import UtxoWallet.Proofs.CommandLine.Listing
import UtxoWallet.Proofs.Ledger.Gathering
import UtxoWallet.Proofs.Wallet.RecordFile
import UtxoWallet.Proofs.Node.Url
import UtxoWallet.Proofs.Ledger.Fields

import FortyTwo.CInt
import FortyTwo.Stun.Packet
import FortyTwo.Stun.Grammar
import FortyTwo.Stun.Request
import FortyTwo.Stun.Walk
import FortyTwo.Stun.ReqId
import FortyTwo.Stun.Encode
import FortyTwo.Wallet.Basic
import FortyTwo.Wallet.AddressBook
import FortyTwo.Wallet.Relock
import FortyTwo.Wallet.ListTransactions
import FortyTwo.Wallet.SinceBlock
import FortyTwo.Wallet.Balance
import FortyTwo.Wallet.Received
import FortyTwo.Wallet.Send
import FortyTwo.Kernel.Record
import FortyTwo.Kernel.CoinAge

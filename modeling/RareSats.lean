import RareSats.Json.Writer
import RareSats.Proofs.Arrangement
import RareSats.Proofs.Place
import RareSats.Proofs.Reply
import RareSats.Proofs.Scan
import RareSats.Service.App
import RareSats.Proofs.Degree
import RareSats.Proofs.Reference
import RareSats.Proofs.Tabled
import RareSats.Proofs.History
import RareSats.Proofs.Rarity
import RareSats.Proofs.Metadata
import RareSats.Proofs.Name
import RareSats.Proofs.Palinception
import RareSats.Proofs.PalindromeCount
import RareSats.Proofs.Clip
import RareSats.Proofs.Canonical
import RareSats.Proofs.Consistency
import RareSats.Proofs.Size
import RareSats.Proofs.Load

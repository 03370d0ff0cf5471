/-!
# Data of writing directions

The direction in which characters of domain names are written, where it is not from left to right,
as lines of a table. Marks that take no room of their own go with the character before them and may
lie inside a run of others, and so may characters that no domain name holds.
-/

namespace ControlPlane.Url.Domain

/-- Runs of one direction: first, last, and 0 for letters written from right to left, 1 for Arabic
digits, 2 for European digits and 3 for what has no direction. -/
def directionLines : List String :=
  ["a1 d7 3,f7 f7 3,2b9 2ba 3,2c2 2cf 3,2d2 2ed 3,2ef 2ff 3,375 375 3,3f6 3f6 3,58a 58f 3",
   "5be 5f4 0,606 607 3,608 608 0,609 60a 3,60b 60b 0,60c 60c 3,60d 60d 0,60e 60f 3,61b 64a 0",
   "660 669 1,66a 66a 3,66b 66c 1,66d 6d5 0,6de 6de 3,6e5 6e6 0,6e9 6e9 3,6ee 6ef 0,6f0 6f9 2",
   "6fa 7f5 0,7f6 7f9 3,7fa 8c9 0,9f2 9f3 3,9fb 9fb 3,af1 af1 3,bf3 bfa 3,c78 c7e 3,e3f e3f 3",
   "f3a f3d 3,1390 1399 3,1400 1400 3,169b 169c 3,17db 17db 3,17f0 180a 3,1940 1945 3",
   "19de 19ff 3,200c 214d 3,218a 2335 3,237b 2394 3,2396 26ab 3,26ad 27ff 3,2900 2bff 3",
   "2ce5 2cea 3,2cf9 2cff 3,2e00 3004 3,3008 3020 3,3030 3030 3,3037 3037 3,303d 303f 3",
   "30a0 30a0 3,30fb 30fb 3,31c0 31e5 3,4dc0 4dff 3,a490 a4c6 3,a60d a60f 3,a673 a67f 3",
   "a700 a721 3,a788 a788 3,a828 a82b 3,a838 a839 3,a874 a877 3,ab6a ab6b 3,fbb2 fbc2 0",
   "fbc3 fe46 3,fe73 fe73 0,10101 10101 3,10140 1018c 3,10190 101a0 3,102e1 102fb 2",
   "10800 1091b 0,1091f 1091f 3,10920 10b35 0,10b39 10b3f 3,10b40 10d23 0,10d30 10d39 1",
   "10d40 10d4f 0,10d6e 10d6e 3,10d6f 10d8f 0,10e60 10e7e 1,10e80 10ec7 0,10ed0 10ed8 3",
   "10f00 10ff6 0,11052 11065 3,11660 1166c 3,11fd5 11ff1 3,16fe2 16fe2 3,1cc00 1cef0 3",
   "1d1e9 1d245 3,1d300 1d356 3,1e2ff 1e2ff 3,1e800 1ed3d 0,1eef0 1f12f 3,1f16d 1f16f 3",
   "1f1ad 1f1ad 3,1f260 1fbfa 3"]

end ControlPlane.Url.Domain
